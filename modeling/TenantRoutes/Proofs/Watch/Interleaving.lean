import TenantRoutes.Proofs.Watch.Publication

/-! Saves that fall between the steps of the watch command. From the moment the directory is watched
every save is followed by a look at the file as it then is, so the last save is published if it is
good, whatever was handled late or together. Before that moment nobody tells of a save. The file is
loaded first and the directory watched last, so a save in between is published only if another one
follows it. -/
namespace TenantRoutes

/-- What may happen next while the policy file is watched. -/
inductive Turn where
  /-- The policy file is replaced. -/
  | save (content : ByteArray)
  /-- The command takes its next step of starting up. It loads the policy, writes its routes, and
  then begins to watch. -/
  | start
  /-- A pending change is handled. -/
  | handle
  /-- A queued policy is compiled and written. -/
  | take

namespace Session

def turn (session : Session) : Turn → Session
  | .save content => session.replace (some content)
  | .start => session.startStep
  | .handle => session.handleChange
  | .take => session.takePolicy

/-- What turns come to, one after the other and in any order. -/
def play (session : Session) (turns : List Turn) : Session :=
  turns.foldl turn session

theorem play_append (session : Session) (turns others : List Turn) :
    session.play (turns ++ others) = (session.play turns).play others :=
  List.foldl_append ..

theorem play_revise (session : Session) (content : ByteArray) :
    session.play [.save content, .handle, .take] = session.revise (some content) :=
  rfl

/-- What the output holds once the queue is empty: the routes of the last policy in the queue that
compiles, or else what it holds already. -/
def due (session : Session) : Option String :=
  (session.queue.reverse.findSome? fun policy =>
    (policy.renderRoutes session.layout).2.toOption).or session.output

/-- The same file is watched, and written in the same layout. -/
structure SameFile (before after : Session) : Prop where
  file : after.file = before.file
  layout : after.layout = before.layout

variable {session : Session} {turn : Turn}

theorem takePolicy_spec (session : Session) :
    session.SameFile session.takePolicy ∧ session.takePolicy.stage = session.stage ∧
      session.takePolicy.pending = session.pending ∧ session.takePolicy.due = session.due := by
  obtain ⟨config, outputPath, layout, file, stage, output, pending, queue, events⟩ := session
  cases queue with
  | nil => exact ⟨⟨rfl, rfl⟩, rfl, rfl, rfl⟩
  | cons policy rest =>
      simp only [takePolicy, compileNext, due, List.reverse_cons, List.findSome?_append,
        List.findSome?_singleton, Option.or_assoc]
      obtain ⟨reported, result⟩ := policy.renderRoutes layout
      cases result with
      | error error => exact ⟨⟨rfl, rfl⟩, rfl, rfl, rfl⟩
      | ok text => exact ⟨⟨rfl, rfl⟩, rfl, rfl, rfl⟩

/-- When a change is handled, the file as it then is decides what is due. -/
theorem handleChange_spec (session : Session) :
    session.SameFile session.handleChange ∧ session.handleChange.stage = session.stage ∧
      (session.pending = 0 ∧ session.handleChange = session ∨
        session.handleChange.pending + 1 = session.pending ∧
          session.handleChange.due =
            (session.file.routesText? session.layout).or session.due) := by
  obtain ⟨config, outputPath, layout, file, stage, output, pending, queue, events⟩ := session
  cases pending with
  | zero => exact ⟨⟨rfl, rfl⟩, rfl, Or.inl ⟨rfl, rfl⟩⟩
  | succ count =>
      simp only [handleChange, PolicyFile.routesText?]
      cases file.load with
      | error error => exact ⟨⟨rfl, rfl⟩, rfl, Or.inr ⟨rfl, rfl⟩⟩
      | ok policy =>
          refine ⟨⟨rfl, rfl⟩, rfl, Or.inr ⟨rfl, ?_⟩⟩
          simp only [report, due, Except.toOption, Option.bind_some, List.reverse_append,
            List.reverse_singleton, List.singleton_append, List.findSome?_cons]
          cases policy.renderRoutes layout with
          | mk reported result => cases result <;> rfl

theorem revise_file (session : Session) (file : PolicyFile) : (session.revise file).file = file :=
  (takePolicy_spec _).1.file.trans (handleChange_spec _).1.file

theorem startStep_sameFile (session : Session) : session.SameFile session.startStep := by
  obtain ⟨config, outputPath, layout, file, stage, output, pending, queue, events⟩ := session
  cases stage with
  | starting =>
      simp only [startStep, loadFirst]
      cases file.load <;> exact ⟨rfl, rfl⟩
  | loaded policy =>
      simp only [startStep, writeFirst]
      obtain ⟨reported, result⟩ := policy.renderRoutes layout
      cases result <;> exact ⟨rfl, rfl⟩
  | written | watching | ended failure => exact ⟨rfl, rfl⟩

/-- No turn but a save changes the file. -/
theorem turn_sameFile (hSave : ∀ content, turn ≠ .save content) :
    session.SameFile (session.turn turn) := by
  cases turn with
  | save content => exact absurd rfl (hSave content)
  | start => exact startStep_sameFile session
  | handle => exact (handleChange_spec session).1
  | take => exact (takePolicy_spec session).1

theorem turn_layout (session : Session) (turn : Turn) :
    (session.turn turn).layout = session.layout := by
  cases turn with
  | save content => rfl
  | start | handle | take => exact (turn_sameFile (by simp)).layout

/-- How far the command has come changes by its steps of starting up alone. -/
theorem turn_stage (hStart : turn ≠ .start) : (session.turn turn).stage = session.stage := by
  cases turn with
  | save content => rfl
  | start => exact absurd rfl hStart
  | handle => exact (handleChange_spec session).2.1
  | take => exact (takePolicy_spec session).2.1

/-! ## While the directory is watched -/

theorem start_of_watching (hStage : session.stage = .watching) : session.turn .start = session := by
  rw [Session.turn, startStep, hStage]

theorem turn_stage_of_watching (hStage : session.stage = .watching) (turn : Turn) :
    (session.turn turn).stage = .watching := by
  by_cases hStart : turn = .start
  · rw [hStart, start_of_watching hStage, hStage]
  · rw [turn_stage hStart, hStage]

/-- A turn of the command handles a change, which makes the file as it is now due, or leaves what is
due as it is. -/
theorem turn_due (hStage : session.stage = .watching) (hSave : ∀ content, turn ≠ .save content) :
    (session.turn turn).pending = session.pending ∧ (session.turn turn).due = session.due ∨
      (session.turn turn).pending + 1 = session.pending ∧
        (session.turn turn).due = (session.file.routesText? session.layout).or session.due := by
  cases turn with
  | save content => exact absurd rfl (hSave content)
  | start =>
      rw [start_of_watching hStage]
      exact Or.inl ⟨rfl, rfl⟩
  | handle =>
      rcases (handleChange_spec session).2.2 with ⟨_, hSame⟩ | hHandled
      · rw [Session.turn, hSame]
        exact Or.inl ⟨rfl, rfl⟩
      · exact Or.inr hHandled
  | take => exact Or.inl (takePolicy_spec session).2.2

/-- The directory is watched, and unless a change is still to be handled, the routes of a good file
are due. -/
structure IsCaughtUp (session : Session) : Prop where
  stage : session.stage = .watching
  due : session.pending = 0 →
    ∀ text, session.file.routesText? session.layout = some text → session.due = some text

/-- A save is pending at first, so it catches up with whatever was lost before. -/
theorem isCaughtUp_save (hStage : session.stage = .watching) (content : ByteArray) :
    (session.turn (.save content)).IsCaughtUp := by
  refine ⟨hStage, fun hPending => ?_⟩
  simp [Session.turn, replace, hStage] at hPending

theorem isCaughtUp_turn (hCaught : session.IsCaughtUp) (turn : Turn) :
    (session.turn turn).IsCaughtUp := by
  by_cases hSave : ∃ content, turn = .save content
  · obtain ⟨content, rfl⟩ := hSave
    exact isCaughtUp_save hCaught.stage content
  · rw [not_exists] at hSave
    have hSame : session.SameFile (session.turn turn) := turn_sameFile hSave
    refine ⟨turn_stage_of_watching hCaught.stage turn, fun hPending text hText => ?_⟩
    rw [hSame.file, hSame.layout] at hText
    rcases turn_due hCaught.stage hSave with ⟨hKept, hDue⟩ | ⟨_, hDue⟩
    · exact hDue.trans (hCaught.due (hKept.symm.trans hPending) text hText)
    · rw [hDue, hText, Option.some_or]

theorem isCaughtUp_play (hCaught : session.IsCaughtUp) (turns : List Turn) :
    (session.play turns).IsCaughtUp := by
  induction turns generalizing session with
  | nil => exact hCaught
  | cons turn rest ih => exact ih (isCaughtUp_turn hCaught turn)

theorem play_stage_of_watching (hStage : session.stage = .watching) (turns : List Turn) :
    (session.play turns).stage = .watching := by
  induction turns generalizing session with
  | nil => exact hStage
  | cons turn rest ih => exact ih (turn_stage_of_watching hStage turn)

/-- Any save makes sure that the last one is published. -/
theorem isCaughtUp_of_save (hStage : session.stage = .watching) {turns : List Turn}
    {content : ByteArray} (hSave : .save content ∈ turns) : (session.play turns).IsCaughtUp := by
  obtain ⟨before, after, rfl⟩ := List.append_of_mem hSave
  rw [play_append]
  exact isCaughtUp_play (isCaughtUp_save (play_stage_of_watching hStage before) content) after

theorem IsCaughtUp.output_eq (hCaught : session.IsCaughtUp) (hIdle : session.IsIdle) {text : String}
    (hText : session.file.routesText? session.layout = some text) : session.output = some text := by
  have hDue := hCaught.due hIdle.pending text hText
  rwa [Session.due, hIdle.queue, List.reverse_nil, List.findSome?_nil, Option.none_or] at hDue

/-! ## Before the directory is watched -/

/-- No change is to be handled and no policy to be compiled. -/
structure IsQuiet (session : Session) : Prop where
  pending : session.pending = 0
  queue : session.queue = []

/-- With nothing to do, only saves and steps of starting up do anything. -/
theorem turn_of_isQuiet (hQuiet : session.IsQuiet) (hSave : ∀ content, turn ≠ .save content)
    (hStart : turn ≠ .start) : session.turn turn = session := by
  cases turn with
  | save content => exact absurd rfl (hSave content)
  | start => exact absurd rfl hStart
  | handle => rw [Session.turn, handleChange, hQuiet.pending]
  | take => rw [Session.turn, takePolicy, compileNext, hQuiet.queue]

/-- Before the directory is watched, a save changes the file and nothing else. -/
theorem turn_eq_withFile (hQuiet : session.IsQuiet) (hStage : session.stage ≠ .watching)
    (hStart : turn ≠ .start) : ∃ file, session.turn turn = { session with file } := by
  by_cases hSave : ∃ content, turn = .save content
  · obtain ⟨content, rfl⟩ := hSave
    refine ⟨some content, ?_⟩
    rw [Session.turn, replace]
    split
    · exact absurd ‹_› hStage
    · rfl
  · exact ⟨session.file, turn_of_isQuiet hQuiet (not_exists.mp hSave) hStart⟩

/-- Without saves nothing happens to a session that is idle. -/
theorem play_of_isIdle (hIdle : session.IsIdle) {turns : List Turn}
    (hSave : ∀ content, .save content ∉ turns) : session.play turns = session := by
  induction turns with
  | nil => rfl
  | cons turn rest ih =>
      have hNothing : session.turn turn = session := by
        by_cases hStart : turn = .start
        · rw [hStart, start_of_watching hIdle.stage]
        · refine turn_of_isQuiet ⟨hIdle.pending, hIdle.queue⟩ ?_ hStart
          rintro content rfl
          exact hSave content List.mem_cons_self
      have hRest := ih fun content hMem => hSave content (List.mem_cons_of_mem _ hMem)
      rwa [play, List.foldl_cons, hNothing]

/-- The command has not loaded its policy yet. -/
structure IsStarting (session : Session) : Prop extends IsQuiet session where
  stage : session.stage = .starting

/-- The command has loaded a file, and does not watch the directory yet. Once it has written, the
output holds the routes of that file, whatever the file is by now. -/
structure HasLoaded (loaded : PolicyFile) (session : Session) : Prop extends IsQuiet session where
  progress : (∃ policy, session.stage = .loaded policy ∧ loaded.load = .ok policy) ∨
    session.stage = .written ∧
      ∃ text, loaded.routesText? session.layout = some text ∧ session.output = some text

theorem IsStarting.start (hStarting : session.IsStarting) :
    HasLoaded session.file (session.turn .start) ∨
      ∃ failure, (session.turn .start).stage = .ended failure := by
  rw [Session.turn, startStep, hStarting.stage]
  simp only [loadFirst]
  cases hLoad : session.file.load with
  | error error => exact Or.inr ⟨_, rfl⟩
  | ok policy =>
      exact Or.inl ⟨⟨hStarting.pending, hStarting.queue⟩, Or.inl ⟨policy, rfl, hLoad⟩⟩

/-- The next step after a file was loaded writes its routes or begins to watch. -/
theorem HasLoaded.start {loaded : PolicyFile} (hLoaded : HasLoaded loaded session) :
    HasLoaded loaded (session.turn .start) ∨
      (∃ failure, (session.turn .start).stage = .ended failure) ∨
      session.stage = .written ∧ (session.turn .start).IsIdle ∧
        (session.turn .start).output = session.output := by
  rcases hLoaded.progress with ⟨policy, hStage, hLoad⟩ | ⟨hStage, _⟩
  · have hText : loaded.routesText? session.layout =
        (policy.renderRoutes session.layout).2.toOption := by
      rw [PolicyFile.routesText?, hLoad]
      rfl
    rw [Session.turn, startStep, hStage]
    simp only [writeFirst]
    generalize policy.renderRoutes session.layout = rendered at hText ⊢
    obtain ⟨reported, result⟩ := rendered
    cases result with
    | error error => exact Or.inr (Or.inl ⟨_, rfl⟩)
    | ok text =>
        exact Or.inl ⟨⟨hLoaded.pending, hLoaded.queue⟩, Or.inr ⟨rfl, text, hText, rfl⟩⟩
  · refine Or.inr (Or.inr ⟨hStage, ?_⟩)
    rw [Session.turn, startStep, hStage]
    exact ⟨⟨rfl, hLoaded.pending, hLoaded.queue⟩, rfl⟩

theorem turn_stage_of_ended {failure : Failure} (hStage : session.stage = .ended failure)
    (turn : Turn) : (session.turn turn).stage = .ended failure := by
  by_cases hStart : turn = .start
  · rw [hStart, Session.turn, startStep, hStage, hStage]
  · rw [turn_stage hStart, hStage]

theorem play_stage_of_ended {failure : Failure} (hStage : session.stage = .ended failure)
    (turns : List Turn) : (session.play turns).stage = .ended failure := by
  induction turns generalizing session with
  | nil => exact hStage
  | cons turn rest ih => exact ih (turn_stage_of_ended hStage turn)

/-- Turns that lead out of a condition have one among them that does. -/
theorem exists_leaving {P : Session → Prop} {turns : List Turn} (hBegin : P session)
    (hEnd : ¬ P (session.play turns)) :
    ∃ before turn after, turns = before ++ turn :: after ∧ P (session.play before) ∧
      ¬ P ((session.play before).turn turn) := by
  induction turns generalizing session with
  | nil => exact absurd hBegin hEnd
  | cons turn rest ih =>
      by_cases hKept : P (session.turn turn)
      · obtain ⟨before, last, after, rfl, hBefore, hLast⟩ := ih hKept hEnd
        exact ⟨turn :: before, last, after, rfl, hBefore, hLast⟩
      · exact ⟨[], turn, rest, rfl, hBegin, hKept⟩

/-- A command that watches its directory did not end at the step before. -/
theorem not_ended_of_watching {turns : List Turn} (hStage : (session.play turns).stage = .watching)
    (failure : Failure) : session.stage ≠ .ended failure := by
  intro hEnded
  simp [play_stage_of_ended hEnded turns] at hStage

theorem play_append_cons (session : Session) (before : List Turn) (turn : Turn)
    (after : List Turn) :
    session.play (before ++ turn :: after) = ((session.play before).turn turn).play after := by
  rw [play_append]
  rfl

/-- The file is loaded before the directory is watched. -/
theorem exists_loading (hStarting : session.IsStarting) {turns : List Turn}
    (hStage : (session.play turns).stage = .watching) :
    ∃ before after, turns = before ++ .start :: after ∧ (session.play before).stage = .starting ∧
      HasLoaded (session.play before).file ((session.play before).turn .start) := by
  have hEnd : ¬ (session.play turns).IsStarting := by
    rintro ⟨_, hStart⟩
    simp [hStage] at hStart
  obtain ⟨before, turn, after, rfl, hBefore, hLeft⟩ := exists_leaving hStarting hEnd
  rw [play_append_cons] at hStage
  by_cases hStart : turn = .start
  · subst hStart
    refine ⟨before, after, rfl, hBefore.stage, hBefore.start.resolve_right ?_⟩
    exact not_exists.mpr (not_ended_of_watching hStage)
  · obtain ⟨file, hTurn⟩ :=
      turn_eq_withFile hBefore.toIsQuiet (by simp [hBefore.stage]) hStart
    rw [hTurn] at hLeft
    exact absurd ⟨⟨hBefore.pending, hBefore.queue⟩, hBefore.stage⟩ hLeft

theorem HasLoaded.stage_ne_watching {loaded : PolicyFile} (hLoaded : HasLoaded loaded session) :
    session.stage ≠ .watching := by
  rcases hLoaded.progress with ⟨policy, hStage, _⟩ | ⟨hStage, _⟩ <;> simp [hStage]

/-- The directory is watched once the routes of the loaded file are written. -/
theorem HasLoaded.exists_watching {loaded : PolicyFile} (hLoaded : HasLoaded loaded session)
    {turns : List Turn} (hStage : (session.play turns).stage = .watching) :
    ∃ before after, turns = before ++ .start :: after ∧ (session.play before).stage = .written ∧
      HasLoaded loaded (session.play before) ∧ ((session.play before).turn .start).IsIdle ∧
      ((session.play before).turn .start).output = (session.play before).output := by
  have hEnd : ¬ HasLoaded loaded (session.play turns) := fun hStill =>
    hStill.stage_ne_watching hStage
  obtain ⟨before, turn, after, rfl, hBefore, hLeft⟩ := exists_leaving hLoaded hEnd
  rw [play_append_cons] at hStage
  by_cases hStart : turn = .start
  · subst hStart
    obtain ⟨hWritten, hWatching⟩ := (hBefore.start.resolve_left hLeft).resolve_left
      (not_exists.mpr (not_ended_of_watching hStage))
    exact ⟨before, after, rfl, hWritten, hBefore, hWatching⟩
  · obtain ⟨file, hTurn⟩ := turn_eq_withFile hBefore.toIsQuiet hBefore.stage_ne_watching hStart
    rw [hTurn] at hLeft
    exact absurd ⟨⟨hBefore.pending, hBefore.queue⟩, hBefore.progress⟩ hLeft

theorem play_layout (session : Session) (turns : List Turn) :
    (session.play turns).layout = session.layout := by
  induction turns generalizing session with
  | nil => rfl
  | cons turn rest ih => exact (ih _).trans (turn_layout session turn)

theorem play_file_of_no_save {turns : List Turn} (hSave : ∀ content, .save content ∉ turns) :
    (session.play turns).file = session.file := by
  induction turns generalizing session with
  | nil => rfl
  | cons turn rest ih =>
      have hSame : (session.turn turn).file = session.file := by
        refine (turn_sameFile ?_).file
        rintro content rfl
        exact hSave content List.mem_cons_self
      exact (ih fun content hMem => hSave content (List.mem_cons_of_mem _ hMem)).trans hSame

/-- When the command begins to watch, the output holds the routes of the file that was loaded. -/
theorem HasLoaded.output_eq {loaded : PolicyFile} (hLoaded : HasLoaded loaded session)
    (hStage : session.stage = .written) :
    session.output = loaded.routesText? session.layout := by
  rcases hLoaded.progress with ⟨policy, hEarlier, _⟩ | ⟨_, text, hText, hOutput⟩
  · simp [hStage] at hEarlier
  · rw [hOutput, hText]

/-- Once the directory is watched and nothing is left to do, consider the turn that loaded the file
and the one that began to watch. A good file has its routes in the output exactly when it was saved
after the watch began, or the file that was loaded has the same routes. So nothing is lost unless
the last save fell between the two turns. -/
theorem play_output_eq_iff (session : Session) (turns : List Turn)
    (hStarting : session.IsStarting) (hIdle : (session.play turns).IsIdle) :
    ∃ before opening watched, turns = before ++ .start :: (opening ++ .start :: watched) ∧
      (session.play before).stage = .starting ∧
      (session.play (before ++ .start :: opening)).stage = .written ∧
      ∀ text, (session.play turns).file.routesText? session.layout = some text →
        ((session.play turns).output = some text ↔ (∃ content, .save content ∈ watched) ∨
          (session.play before).file.routesText? session.layout = some text) ∧
        ((∀ content, .save content ∉ opening) → (session.play turns).output = some text) := by
  obtain ⟨before, rest, rfl, hBefore, hLoaded⟩ := exists_loading hStarting hIdle.stage
  rw [play_append_cons] at hIdle ⊢
  obtain ⟨opening, watched, rfl, hWritten, hOpening, hWatching, hOutput⟩ :=
    hLoaded.exists_watching hIdle.stage
  refine ⟨before, opening, watched, rfl, hBefore, by rwa [play_append_cons], ?_⟩
  rw [play_append_cons] at hIdle ⊢
  generalize hLoading : session.play before = loading at *
  generalize hOpened : (loading.turn .start).play opening = opened at *
  have hLayout : opened.layout = session.layout := by
    rw [← hOpened, play_layout, turn_layout, ← hLoading, play_layout]
  intro text hText
  by_cases hSaved : ∃ content, .save content ∈ watched
  · obtain ⟨content, hSave⟩ := hSaved
    have hPublished : ((opened.turn .start).play watched).output = some text := by
      refine (isCaughtUp_of_save hWatching.stage hSave).output_eq hIdle ?_
      rwa [play_layout, turn_layout, hLayout]
    exact ⟨iff_of_true hPublished (Or.inl ⟨content, hSave⟩), fun _ => hPublished⟩
  · -- Nobody tells of a save any more, so the output stays as it was when the watch began.
    rw [play_of_isIdle hWatching (not_exists.mp hSaved)] at hText ⊢
    rw [hOutput, hOpening.output_eq hWritten, hLayout]
    refine ⟨by simp [hSaved], fun hSave => ?_⟩
    have hFile : (opened.turn .start).file = loading.file := by
      rw [(turn_sameFile (by simp)).file, ← hOpened, play_file_of_no_save hSave,
        (turn_sameFile (by simp)).file]
    rwa [hFile] at hText

/-- The watch command on an empty file, the policy without sites, before it loads it. -/
def onEmptyFile : Session :=
  { config := "sites.toml", outputPath := "out.json", layout := .compact, file := some "".toUTF8 }

/-- The steps of starting up, with a save of the file between loading and writing. -/
def startWithSave (content : ByteArray) : List Turn :=
  [.start, .save content, .start, .start]

theorem play_startWithSave (content : ByteArray) :
    let session := onEmptyFile.play (startWithSave content)
    session.IsIdle ∧ session.file = some content ∧ session.output = some "[]" := by
  have hEmpty : PolicyFile.routesText? .compact (some "".toUTF8) = some "[]" := by decide +kernel
  obtain ⟨policy, routes, hLoad, hRoutes, hText⟩ := PolicyFile.routesText?_eq_some_iff.mp hEmpty
  have hRendered := policy.renderRoutes_result .compact
  rw [hRoutes, Except.map, hText] at hRendered
  simp only [onEmptyFile, startWithSave, play, List.foldl_cons, List.foldl_nil, Session.turn,
    startStep, loadFirst, hLoad, report, replace, writeFirst]
  generalize policy.renderRoutes .compact = rendered at hRendered ⊢
  obtain ⟨reported, result⟩ := rendered
  subst hRendered
  exact ⟨⟨rfl, rfl, rfl⟩, rfl, rfl⟩

/-- A policy with a site has other routes than one without. -/
theorem blogFile_routesText :
    ∃ text, PolicyFile.routesText? .compact (some (blogFile "x")) = some text ∧ text ≠ "[]" := by
  have hSites : (PolicyFile.routesText? .compact (some (blogFile "x"))).any (· != "[]") := by
    decide +kernel
  cases hText : PolicyFile.routesText? .compact (some (blogFile "x")) with
  | none => simp [hText] at hSites
  | some text => exact ⟨text, rfl, by simpa [hText] using hSites⟩

/-- A good policy that is saved between loading and watching is not published. -/
theorem save_lost_before_watching :
    ∃ session text, session = onEmptyFile.play (startWithSave (blogFile "x")) ∧ session.IsIdle ∧
      session.file.routesText? .compact = some text ∧ session.output ≠ some text := by
  obtain ⟨text, hText, hSites⟩ := blogFile_routesText
  obtain ⟨hIdle, hFile, hOutput⟩ := play_startWithSave (blogFile "x")
  refine ⟨_, text, rfl, hIdle, by rw [hFile, hText], ?_⟩
  rw [hOutput, ne_eq, Option.some.injEq]
  exact hSites.symm

/-- Turns after the last step of starting up come after every such step. -/
theorem mem_after_start {first last before after : List Turn} (hStart : .start ∉ last)
    (hTurns : first ++ last = before ++ .start :: after) (hTurn : turn ∈ last) : turn ∈ after := by
  rcases List.append_eq_append_iff.mp hTurns with ⟨middle, _, rfl⟩ | ⟨middle, _, hAfter⟩
  · simp at hStart
  · cases middle with
    | nil =>
        rw [List.nil_append] at hAfter
        simp [← hAfter] at hStart
    | cons _ rest =>
        obtain ⟨_, rfl⟩ := List.cons.inj hAfter
        exact List.mem_append_right rest hTurn

/-- The same policy is published when it is saved again. -/
theorem save_published_while_watching :
    ∃ session text,
      session = onEmptyFile.play (startWithSave (blogFile "x") ++
        [.save (blogFile "x"), .handle, .take]) ∧
      onEmptyFile.IsStarting ∧ session.IsIdle ∧
      session.file.routesText? .compact = some text ∧ session.output = some text := by
  obtain ⟨text, hText, _⟩ := blogFile_routesText
  generalize blogFile "x" = content at hText ⊢
  have hStarting : onEmptyFile.IsStarting := ⟨⟨rfl, rfl⟩, rfl⟩
  have hPlay : onEmptyFile.play (startWithSave content ++ [.save content, .handle, .take]) =
      (onEmptyFile.play (startWithSave content)).revise (some content) :=
    (play_append _ _ _).trans (play_revise _ content)
  have hIdle : (onEmptyFile.play
      (startWithSave content ++ [.save content, .handle, .take])).IsIdle := by
    rw [hPlay]
    exact (revise_of_isIdle (play_startWithSave content).1 (some content)).1
  have hFile : (onEmptyFile.play
      (startWithSave content ++ [.save content, .handle, .take])).file = some content := by
    rw [hPlay, revise_file]
  obtain ⟨before, opening, watched, hTurns, _, _, hPublished⟩ := play_output_eq_iff onEmptyFile
    (startWithSave content ++ [.save content, .handle, .take]) hStarting hIdle
  have hWatched : .save content ∈ watched := by
    rw [← List.cons_append, ← List.append_assoc] at hTurns
    exact mem_after_start (by simp) hTurns List.mem_cons_self
  rw [hFile] at hPublished
  refine ⟨_, text, rfl, hStarting, hIdle, by rw [hFile, hText], ?_⟩
  exact (hPublished text hText).1.mpr (Or.inl ⟨_, hWatched⟩)

end Session

end TenantRoutes
