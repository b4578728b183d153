import Timetabling.Proofs.Requests
import Timetabling.Service.Routes

/-!
# What is answered with a timetable

Failures have statuses of their own, so an answer with the status of a timetable comes from a solve
that has found one. The settings of that solve are valid, whether they have been given with the
request or come from the environment.
-/

namespace Timetabling

theorem Failure.Kind.status_ne_created (kind : Kind) : kind.status ≠ 201 := by
  cases kind <;> decide

theorem SolveFault.status_ne_created {fault : SolveFault} {failure : Failure}
    (reported : fault.failure = .ok failure) : failure.status ≠ 201 := by
  have status : ∃ kind : Failure.Kind, failure.status = kind.status := by
    cases fault with
    | invalid fault =>
      cases reported
      exact ⟨.invalidInput, rfl⟩
    | infeasible attempt =>
      cases reported
      exact ⟨.infeasible, rfl⟩
    | outOfBudget attempt =>
      cases reported
      exact ⟨.budgetExceeded, rfl⟩
    | unsound method violations unassigned =>
      cases reported
      exact ⟨.scheduling, rfl⟩
    | arithmetic fault => cases reported
  obtain ⟨kind, same⟩ := status
  rw [same]
  exact kind.status_ne_created

theorem Configuration.settings_spec (c : Configuration) :
    match c.settings with
    | .ok s => s.Valid
    | .error failure => failure.status = Failure.Kind.configuration.status := by
  unfold settings
  cases read : Settings.ofValue (.record c.solverEntries) with
  | valid s =>
    dsimp only
    exact Settings.valid_of_ofValue read
  | invalid faults => rfl

theorem Settings.ofEnvironment_spec (environment : List (String × String)) :
    match ofEnvironment environment with
    | .ok s => s.Valid
    | .error (.unsuitable failure) => failure.status = Failure.Kind.configuration.status
    | .error (.unconfigured _) => True := by
  unfold ofEnvironment
  cases Configuration.read environment [] with
  | error fault => trivial
  | ok configuration =>
    have spec := configuration.settings_spec
    cases chosen : configuration.settings with
    | ok s =>
      rw [chosen] at spec
      simp only [chosen]
      exact spec
    | error failure =>
      rw [chosen] at spec
      simp only [chosen]
      exact spec

theorem GenerateRequest.valid_settings {v : Value} {r : GenerateRequest}
    (read : ofValue v = .valid r) : ∀ s ∈ r.settings, s.Valid := by
  obtain ⟨entries, -, parts, -⟩ := ofValue_eq_valid_iff.mp read
  obtain ⟨-, -, -, -, -, settings⟩ := ofEntries_eq_valid_iff.mp parts
  exact Reader.fieldOr_property settings (by simp) fun _ _ =>
    Reader.nullable_property fun _ _ => Settings.valid_of_ofValue

namespace Service

variable {host : Host} {body answer : Value}

theorem exists_solve_of_generateWith {r : GenerateRequest} {s : Settings}
    (generated : generateWith host r s = .ok ⟨201, answer⟩) :
    ∃ t, r.problem.solve s (s.generator host.seed) (host.deadlines s) = .ok t ∧
      answer = Answer.timetable t s := by
  unfold generateWith at generated
  split at generated
  next t solved =>
    cases generated
    exact ⟨t, solved, rfl⟩
  next fault _ =>
    split at generated
    next failure reported =>
      have status : failure.status = 201 := congrArg Response.status (Except.ok.inj generated)
      exact absurd status (SolveFault.status_ne_created reported)
    next => cases generated

/-- What is answered comes from a solve with valid settings, or the configuration is at fault. -/
theorem generate_cases {r : GenerateRequest} {response : Response}
    (validSettings : ∀ s ∈ r.settings, s.Valid) (generated : generate host r = .ok response) :
    (∃ s, s.Valid ∧ generateWith host r s = .ok response) ∨
      response.status = Failure.Kind.configuration.status := by
  unfold generate at generated
  cases given : r.settings with
  | some s =>
    rw [given] at generated
    exact .inl ⟨s, validSettings s given, generated⟩
  | none =>
    rw [given] at generated
    have spec := Settings.ofEnvironment_spec host.environment
    cases chosen : Settings.ofEnvironment host.environment with
    | ok s =>
      rw [chosen] at spec
      simp only [defaultSettings, chosen] at generated
      exact .inl ⟨s, spec, generated⟩
    | error fault =>
      simp only [defaultSettings, chosen] at generated
      cases fault with
      | unsuitable failure =>
        rw [chosen] at spec
        cases generated
        exact .inr spec
      | unconfigured fault => cases generated

theorem exists_solve_of_generate {r : GenerateRequest} (validSettings : ∀ s ∈ r.settings, s.Valid)
    (generated : generate host r = .ok ⟨201, answer⟩) :
    ∃ s t, s.Valid ∧ r.problem.solve s (s.generator host.seed) (host.deadlines s) = .ok t ∧
      answer = Answer.timetable t s := by
  rcases generate_cases validSettings generated with ⟨s, valid, solving⟩ | status
  · obtain ⟨t, solved, answered⟩ := exists_solve_of_generateWith solving
    exact ⟨s, t, valid, solved, answered⟩
  · exact absurd status.symm (Failure.Kind.status_ne_created .configuration)

theorem ofValue_of_readBody {α : Type} {reader : Reader α} {a : α}
    (read : readBody reader (some body) = .valid a) : reader body = .valid a := by
  cases body with
  | null => simp [readBody] at read
  | _ => exact read

theorem exists_solve_of_perform
    (generated : perform host .generate (some body) = .ok ⟨201, answer⟩) :
    ∃ r s t, GenerateRequest.ofValue body = .valid r ∧ s.Valid ∧
      r.problem.solve s (s.generator host.seed) (host.deadlines s) = .ok t ∧
      answer = Answer.timetable t s := by
  simp only [perform] at generated
  split at generated
  next r read =>
    have accepted := ofValue_of_readBody read
    obtain ⟨s, t, valid, solved, answered⟩ :=
      exists_solve_of_generate (GenerateRequest.valid_settings accepted) generated
    exact ⟨r, s, t, accepted, valid, solved, answered⟩
  next faults _ => cases congrArg Response.status (Except.ok.inj generated)

end Service

end Timetabling
