import Mathlib.Data.List.Basic
import TenantRoutes.Proofs.Watch.Publication

/-! What comes of the revisions of a policy file. If the system reports changes faithfully, each
change has an outcome of its own: a content that arrives is published if it is accepted, and
rejected otherwise; the policy file is missed when it was renamed; removing it and changes of other
files are ignored. Neither the first content nor what came of earlier changes matters. -/
namespace TenantRoutes

/-- An accepted policy is valid. -/
theorem Policy.isValid_of_parse {text : String} {policy : Policy}
    (hParse : Policy.parse text = .ok policy) : policy.isValid = true := by
  rw [parse] at hParse
  cases hText : ofText? text with
  | none => simp [hText] at hParse
  | some read =>
      rw [hText] at hParse
      cases hProblems : read.problems with
      | nil =>
          obtain rfl : read = policy := by simpa [validate, hProblems] using hParse
          rw [isValid, hProblems, List.isEmpty_nil]
      | cons problem others => simp [validate, hProblems] at hParse

/-- The policy that is published, if any is. -/
def Notice.policy? : Notice → Option Policy
  | published policy => some policy
  | rejected _ | ignored => none

theorem PolicyFile.notice_policy? (file : PolicyFile) :
    file.notice.policy? = file.load.toOption := by
  rw [notice]
  cases file.load <;> rfl

theorem PolicyFile.load_toOption (content : ByteArray) :
    (load (some content)).toOption =
      (String.fromUTF8? content).bind fun text => (Policy.parse text).toOption := by
  simp only [load, Policy.load]
  cases String.fromUTF8? content <;> rfl

namespace FileChange

/-- Whether a change can happen to the policy file as it is. -/
def IsApplicable : FileChange → PolicyFile → Prop
  | put _, _ | other, _ => True
  | create _, file => file = none
  | remove, file | moveAway, file => file ≠ none

/-- Changes can happen one after the other, from some state of the policy file on. -/
def AreApplicable : PolicyFile → List FileChange → Prop
  | _, [] => True
  | file, change :: rest => change.IsApplicable file ∧ AreApplicable (change.apply file) rest

/-- What has to come of a change, whatever the policy file was before. -/
def outcome : FileChange → Notice
  | put content | create content =>
    match Policy.load (.ok content) with
    | .ok policy => .published policy
    | .error error => .rejected error
  | moveAway => .rejected (.unreadable .notFound)
  | other | remove => .ignored

/-- The policy that a change brings, if its content is the text of one that is accepted. -/
def accepted? : FileChange → Option Policy
  | put content | create content =>
    (String.fromUTF8? content).bind fun text => (Policy.parse text).toOption
  | moveAway | other | remove => none

theorem outcome_policy? (change : FileChange) : change.outcome.policy? = change.accepted? := by
  cases change with
  | put content | create content =>
      exact (PolicyFile.notice_policy? (some content)).trans (PolicyFile.load_toOption content)
  | other | remove | moveAway => rfl

theorem isValid_of_outcome {change : FileChange} {policy : Policy}
    (hOutcome : change.outcome = .published policy) : policy.isValid = true := by
  cases change with
  | put content | create content =>
      cases hLoad : Policy.load (.ok content) with
      | error error => simp [outcome, hLoad] at hOutcome
      | ok accepted =>
          obtain rfl : accepted = policy := by simpa [outcome, hLoad] using hOutcome
          obtain ⟨_, text, _, _, hParse⟩ := Policy.load_eq_ok_iff.mp hLoad
          exact Policy.isValid_of_parse hParse
  | other | remove | moveAway => simp [outcome] at hOutcome

end FileChange

namespace DirectoryWatch

variable {watch : DirectoryWatch} {event : DirectoryEvent}

/-- An event that creates or modifies the file with the name of the policy. -/
structure Lands (watch : DirectoryWatch) (event : DirectoryEvent) : Prop where
  kind : event.kind = .create ∨ event.kind = .modify
  named : ∃ path ∈ event.paths, fileName? path = fileName? watch.path

/-- How the system reports changes. Files that arrive at the name of the policy or leave it are
created or modified there, a deletion is called so, and changes of other files are not reported
under its name. -/
structure IsFaithful (watch : DirectoryWatch) : Prop where
  named : ∃ name, fileName? watch.path = some name
  put : ∀ content, watch.Lands (watch.reports (.put content))
  create : ∀ content, watch.Lands (watch.reports (.create content))
  moveAway : watch.Lands (watch.reports .moveAway)
  remove : (watch.reports .remove).kind = .remove
  other : ∀ path ∈ (watch.reports .other).paths, fileName? path ≠ fileName? watch.path

theorem touches_iff :
    watch.touches event = true ↔ (event.kind = .modify ∨ event.kind = .create) ∧
      ∃ path ∈ event.paths, fileName? path = some watch.policyName := by
  simp [touches]

theorem IsFaithful.policyName_eq (hFaithful : watch.IsFaithful) :
    some watch.policyName = fileName? watch.path := by
  obtain ⟨name, hName⟩ := hFaithful.named
  rw [policyName, hName, Option.getD_some]

theorem IsFaithful.touches_of_lands (hFaithful : watch.IsFaithful) (hLands : watch.Lands event) :
    watch.touches event = true := by
  rw [touches_iff, hFaithful.policyName_eq]
  exact ⟨hLands.kind.symm, hLands.named⟩

/-- One change that can happen, looked at before the next one, has its outcome. -/
theorem IsFaithful.notice_eq (hFaithful : watch.IsFaithful) {change : FileChange}
    {file : PolicyFile} (hApplicable : change.IsApplicable file) :
    watch.notice change file = change.outcome := by
  cases change with
  | put content =>
      have hTouches := hFaithful.touches_of_lands (hFaithful.put content)
      simp only [notice, FileChange.takesPlace, react, hTouches, if_true]
      rfl
  | create content =>
      have hTouches := hFaithful.touches_of_lands (hFaithful.create content)
      simp only [notice, FileChange.takesPlace, react, hTouches, if_true]
      rfl
  | other =>
      have hTouches : watch.touches (watch.reports .other) = false := by
        rw [Bool.eq_false_iff, ne_eq, touches_iff, hFaithful.policyName_eq]
        rintro ⟨_, path, hPath, hName⟩
        exact hFaithful.other path hPath hName
      simp only [notice, react, hTouches]
      rfl
  | remove =>
      have hTouches : watch.touches (watch.reports .remove) = false := by
        rw [Bool.eq_false_iff, ne_eq, touches_iff, hFaithful.remove]
        simp
      rw [notice, react, hTouches, if_neg Bool.false_ne_true, ite_self]
      rfl
  | moveAway =>
      have hTouches := hFaithful.touches_of_lands hFaithful.moveAway
      have hThere : file.isSome = true := Option.isSome_iff_ne_none.mpr hApplicable
      simp only [notice, FileChange.takesPlace, react, hTouches, hThere, if_true]
      rfl

/-- Every change of a run has its outcome, whatever the others are. -/
theorem IsFaithful.notices_eq (hFaithful : watch.IsFaithful) {file : PolicyFile}
    {changes : List FileChange} (hApplicable : FileChange.AreApplicable file changes) :
    watch.notices file changes = changes.map FileChange.outcome := by
  induction changes generalizing file with
  | nil => rfl
  | cons change rest ih =>
      rw [notices, hFaithful.notice_eq hApplicable.1, ih hApplicable.2, List.map_cons]

/-- A watch whose changes are reported faithfully publishes the accepted revisions and nothing else,
in order. Every change has its own outcome: the first content is never looked at, only valid
policies are published, and what comes of later changes is the same after any others. -/
theorem notices_of_isFaithful (watch : DirectoryWatch) (initial : PolicyFile)
    (changes : List FileChange) (hFaithful : watch.IsFaithful)
    (hApplicable : FileChange.AreApplicable initial changes) :
    watch.notices initial changes = changes.map FileChange.outcome ∧
    (watch.notices initial changes).filterMap Notice.policy? =
      changes.filterMap FileChange.accepted? ∧
    (∀ policy, .published policy ∈ watch.notices initial changes → policy.isValid = true) ∧
    (∀ earlier later other others, changes = earlier ++ later →
      FileChange.AreApplicable other (others ++ later) →
      (watch.notices initial changes).drop earlier.length =
        (watch.notices other (others ++ later)).drop others.length) := by
  have hNotices := hFaithful.notices_eq hApplicable
  refine ⟨hNotices, ?_, ?_, ?_⟩
  · rw [hNotices, List.filterMap_map]
    exact List.filterMap_congr fun change _ => change.outcome_policy?
  · intro policy hPublished
    rw [hNotices] at hPublished
    obtain ⟨change, _, hOutcome⟩ := List.mem_map.mp hPublished
    exact FileChange.isValid_of_outcome hOutcome
  · rintro earlier later other others rfl hOthers
    rw [hNotices, hFaithful.notices_eq hOthers, List.map_append, List.map_append,
      List.drop_left' (List.length_map _), List.drop_left' (List.length_map _)]

end DirectoryWatch

/-- The policy file is created with an invalid policy, replaced by a good one, renamed, created
again and removed, and between that another file changes. Two policies are published. -/
theorem notices_of_sitesFile :
    let watch : DirectoryWatch :=
      { path := "sites.toml", reports := FileChange.event "sites.toml" }
    let changes : List FileChange :=
      [.create "platform.sites_domain = \"\"".toUTF8, .put (blogFile "x"), .other, .moveAway,
        .create "".toUTF8, .remove]
    watch.IsFaithful ∧ FileChange.AreApplicable none changes ∧
      ((watch.notices none changes).filterMap Notice.policy?).map (·.sites.length) = [1, 0] := by
  intro watch changes
  have hFaithful : watch.IsFaithful :=
    { named := ⟨"sites.toml", by decide⟩
      put := fun _ => ⟨Or.inr rfl, _, List.mem_cons_self, rfl⟩
      create := fun _ => ⟨Or.inl rfl, _, List.mem_cons_self, rfl⟩
      moveAway := ⟨Or.inr rfl, _, List.mem_cons_self, rfl⟩
      remove := rfl
      other := by decide }
  have hApplicable : FileChange.AreApplicable none changes :=
    ⟨rfl, trivial, trivial, Option.some_ne_none _, rfl, Option.some_ne_none _, trivial⟩
  refine ⟨hFaithful, hApplicable, ?_⟩
  rw [(watch.notices_of_isFaithful none changes hFaithful hApplicable).2.1]
  decide +kernel

end TenantRoutes
