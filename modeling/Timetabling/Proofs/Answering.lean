import Timetabling.Proofs.Outcome
import Timetabling.Proofs.Posing
import Timetabling.Proofs.Routing

/-!
# Every accepted request for a timetable is answered

With settings to solve it with, an accepted request is answered in one of three ways: with a
timetable, with the failure of a problem that has none, or with that of a search whose budget ran
out. No setting that is accepted leads to anything else, and what is answered has a JSON text. A
threshold that is not a finite number has none, so it is answered as null.
-/

namespace Timetabling

/-! ### Answers that have a JSON text -/

theorem Value.isFinite_ofOption {α : Type} {toValue : α → Value} {given : Option α}
    (each : ∀ a ∈ given, (toValue a).isFinite = true) : (ofOption toValue given).isFinite = true := by
  cases given with
  | none => rfl
  | some a => exact each a rfl

theorem Value.isFinite_list_map {α : Type} {toValue : α → Value} {items : List α}
    (each : ∀ a ∈ items, (toValue a).isFinite = true) :
    (Value.list (items.map toValue)).isFinite = true := by
  unfold Value.isFinite
  rw [areFinite_iff, List.forall_mem_map]
  exact each

namespace Answer

theorem isFinite_finiteOrNull {v : Value} (scalar : v.isFinite = true ∨ ∃ x, v = .float x) :
    (finiteOrNull v).isFinite = true := by
  cases v with
  | float x =>
    change (if x.isFinite then Value.float x else .null).isFinite = true
    split
    next finite => exact finite
    next => rfl
  | _ => exact scalar.resolve_right nofun

theorem isFinite_settings (s : Settings) : (settings s).isFinite = true := by
  have scalar : ∀ entry ∈ s.entries, entry.2.isFinite = true ∨ ∃ x, entry.2 = .float x := by
    have budget : (Value.ofOption .float s.timeBudget).isFinite = true ∨
        ∃ x, Value.ofOption .float s.timeBudget = .float x := by
      cases s.timeBudget with
      | none => exact .inl rfl
      | some x => exact .inr ⟨x, rfl⟩
    simp only [Settings.entries, List.forall_mem_cons]
    exact ⟨.inl rfl, .inl rfl, .inl rfl, .inr ⟨_, rfl⟩, .inr ⟨_, rfl⟩, .inl rfl, .inl rfl,
      .inr ⟨_, rfl⟩, .inl rfl, .inl (Value.isFinite_ofOption fun _ _ => rfl), .inl rfl, budget,
      nofun⟩
  unfold settings Value.isFinite
  rw [Value.haveFinite_iff, List.forall_mem_map]
  intro entry listed
  exact isFinite_finiteOrNull (scalar entry listed)

theorem isFinite_statistics {s : Statistics} (usage : s.usage.isFinite = true)
    (fitness : ∀ x ∈ s.fitness, x.isFinite = true) : (statistics s).isFinite = true := by
  have count (given : Option Int) : (Value.ofOption .int given).isFinite = true :=
    Value.isFinite_ofOption fun _ _ => rfl
  have reported : (Value.ofOption .float s.fitness).isFinite = true :=
    Value.isFinite_ofOption fitness
  simp only [statistics, Value.isFinite, Value.haveFinite, usage, count, reported, Bool.and_self]

theorem isFinite_timetable {t : Timetable} (usage : t.statistics.usage.isFinite = true)
    (fitness : ∀ x ∈ t.statistics.fitness, x.isFinite = true) (s : Settings) :
    (timetable t s).isFinite = true := by
  have rows : (Value.list (t.assignments.map assignment)).isFinite = true :=
    Value.isFinite_list_map fun _ _ => rfl
  simp only [timetable, Value.isFinite.eq_def (.record _), Value.haveFinite, rows,
    isFinite_statistics usage fitness, isFinite_settings, Bool.and_self]

def unsolved (kind : Failure.Kind) (attempt : Attempt) : Response :=
  ⟨400, .record [("message", .text kind.defaultMessage), ("details", .record attempt.details)]⟩

theorem isFinite_unsolved (kind : Failure.Kind) (attempt : Attempt) :
    (unsolved kind attempt).body.isFinite = true := by
  have methods : (Value.list (attempt.methods.map fun method => .text method.name)).isFinite =
      true := Value.isFinite_list_map fun _ _ => rfl
  simp only [unsolved, Attempt.details, Value.isFinite.eq_def (.record _), Value.haveFinite,
    methods]
  rfl

end Answer

/-! ### The settings of a solve -/

/-- Whether a request is solved with these settings: its own ones or, where it has none, those of
the environment. -/
def Host.Chooses (host : Host) (r : GenerateRequest) (s : Settings) : Prop :=
  r.settings = some s ∨ r.settings = none ∧ Settings.ofEnvironment host.environment = .ok s

namespace Host.Chooses

variable {host : Host} {r : GenerateRequest} {s : Settings}

theorem generate_eq (chosen : host.Chooses r s) :
    Service.generate host r = Service.generateWith host r s := by
  unfold Service.generate
  rcases chosen with given | ⟨absent, configured⟩
  · rw [given]
    rfl
  · rw [absent]
    simp only [Service.defaultSettings, configured]
    rfl

theorem valid (chosen : host.Chooses r s) {body : Value}
    (read : GenerateRequest.ofValue body = .valid r) : s.Valid := by
  rcases chosen with given | ⟨-, configured⟩
  · exact GenerateRequest.valid_settings read s given
  · have spec := Settings.ofEnvironment_spec host.environment
    rw [configured] at spec
    exact spec

end Host.Chooses

/-! ### Answers to accepted requests -/

namespace Service

/-- The answers that are documented for an accepted request with settings to solve it with. -/
inductive Documented (host : Host) (r : GenerateRequest) (s : Settings) : Response → Prop where
  | created (t : Timetable) (sound : r.problem.IsTimetable t) :
      Documented host r s ⟨201, Answer.timetable t s⟩
  | infeasible (nothing : ∀ lessons, ¬ r.problem.IsSchedule lessons) :
      Documented host r s
        (Answer.unsolved .infeasible ⟨r.sections.length, r.problem.methods s, false⟩)
  | outOfBudget
      (exhausts : r.problem.Exhausts ⟨s.maxSteps, ((host.deadlines s).within s).exact⟩) :
      Documented host r s
        (Answer.unsolved .budgetExceeded ⟨r.sections.length, r.problem.methods s, true⟩)

variable {host : Host} {body : Value} {r : GenerateRequest} {s : Settings} {answer : Response}

theorem Documented.isFinite (documented : Documented host r s answer)
    (few : r.sections.length ≤ 2000) : answer.body.isFinite = true := by
  cases documented with
  | created t sound =>
    have large : 2000 ≤ pow2 1022 ∧ 130 * 2000 < Binary64.overflow := by decide +kernel
    have sections : r.problem.sections.length ≤ 2000 := few
    apply Answer.isFinite_timetable
    · exact sound.isFinite_usage (sections.trans large.1)
    · exact sound.isFinite_fitness (by omega)
  | infeasible => exact Answer.isFinite_unsolved _ _
  | outOfBudget => exact Answer.isFinite_unsolved _ _

theorem generateWith_documented (accepted : r.problem.Accepted) (valid : s.Valid) (host : Host) :
    ∃ answer, generateWith host r s = .ok answer ∧ Documented host r s answer := by
  have once : ∀ sectionId, (r.problem.studentsOf sectionId).Nodup :=
    Problem.nodup_students_build r.sections r.classrooms r.slots _ r.enrollments
  have concludes := Problem.concludes_solve accepted once valid (s.generator host.seed)
    (host.deadlines s)
  unfold generateWith
  cases ended : r.problem.solve s (s.generator host.seed) (host.deadlines s) with
  | ok t =>
    rw [ended] at concludes
    cases concludes with
    | scheduled _ sound => exact ⟨_, rfl, .created t sound⟩
  | error fault =>
    rw [ended] at concludes
    cases concludes with
    | infeasible nothing => exact ⟨_, rfl, .infeasible nothing⟩
    | outOfBudget exhausts => exact ⟨_, rfl, .outOfBudget exhausts⟩

/-- An accepted request with settings to solve it with gets one of the documented answers. The
answer has a JSON text, and it is what comes back if the request can be sent. -/
theorem generate_answers (read : GenerateRequest.ofValue body = .valid r)
    (chosen : host.Chooses r s) :
    ∃ answer, perform host .generate (some body) = .ok answer ∧ Documented host r s answer ∧
      answer.body.isFinite = true ∧
      (body.isFinite = true →
        respond host ⟨"POST", Operation.generate.path, some body⟩ = .ok answer) := by
  have accepted := GenerateRequest.accepted_of_ofValue read
  obtain ⟨answer, generated, documented⟩ :=
    generateWith_documented accepted (chosen.valid read) host
  have performed : perform host .generate (some body) = .ok answer := by
    rw [GenerateRequest.perform_generate read, chosen.generate_eq, generated]
  refine ⟨answer, performed, documented, ?_, ?_⟩
  · exact documented.isFinite (GenerateRequest.length_sections_le read)
  · intro finite
    have reached := respond_operation host .generate (some body)
    rw [Option.all_some, finite, if_pos rfl, performed] at reached
    exact reached

/-- A request for the genetic search with a threshold below all numbers and the smallest time
budget. -/
def extremeBody : Value :=
  .record [
    ("sections", .list [Section.toValue ⟨"algebra", "ada", 20, false⟩]),
    ("classrooms", .list [Classroom.toValue ⟨"hall", 30, []⟩]),
    ("time_slots", .list [TimeSlot.toValue ⟨"Monday", "09:00", "10:00"⟩]),
    ("settings_override", .record [("heuristic_section_threshold", .int 0),
      ("fitness_threshold", .text "-inf"), ("time_budget_seconds", .text "5e-324")])]

def extremeSettings : Settings where
  heuristicThreshold := 0
  fitnessThreshold := .infinite true
  timeBudget := some (.ofDecimal false 5 (-324))

def extremeRequest : GenerateRequest where
  sections := [⟨"algebra", "ada", 20, false⟩]
  classrooms := [⟨"hall", 30, []⟩]
  slots := [⟨"Monday", "09:00", "10:00"⟩]
  settings := some extremeSettings

theorem generate_answers_extreme :
    GenerateRequest.ofValue extremeBody = .valid extremeRequest ∧
      Host.Chooses {} extremeRequest extremeSettings ∧
      ∃ answer, Documented {} extremeRequest extremeSettings answer ∧
        answer.body.isFinite = true ∧
        respond {} ⟨"POST", Operation.generate.path, some extremeBody⟩ = .ok answer := by
  have read : GenerateRequest.ofValue extremeBody = .valid extremeRequest := by decide +kernel
  have chosen : Host.Chooses {} extremeRequest extremeSettings := .inl rfl
  obtain ⟨answer, -, documented, finite, sent⟩ := generate_answers read chosen
  exact ⟨read, chosen, answer, documented, finite, sent (by decide +kernel)⟩

end Service

end Timetabling
