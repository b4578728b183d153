import Timetabling.Proofs.Indifference

/-!
# Easier problems

Whether a solve finds a timetable or proves that there is none depends on its problem only, and
only on whether the problem has a schedule. `Draft.Restates` relates problems that have the same
schedules up to what no constraint looks at, `Draft.Eases` those of which the second asks no more
than the first. A schedule of the first is turned into one of the second lesson by lesson.
-/

namespace Timetabling

inductive Ruling where
  | scheduled
  | infeasible
  | outOfBudget
  | failed
deriving DecidableEq, Repr

def Ruling.ofOutcome : Except SolveFault Timetable → Ruling
  | .ok _ => scheduled
  | .error (.infeasible _) => infeasible
  | .error (.outOfBudget _) => outOfBudget
  | .error _ => failed

namespace Problem

def Feasible (p : Problem) : Prop :=
  ∃ lessons, p.IsSchedule lessons

variable {p : Problem}

/-- The rulings that are right for a problem. -/
inductive Ruled (p : Problem) : Ruling → Prop where
  | scheduled (feasible : p.Feasible) : Ruled p .scheduled
  | infeasible (nothing : ¬ p.Feasible) : Ruled p .infeasible
  | outOfBudget : Ruled p .outOfBudget

theorem Concludes.ruled {budget : Budget} {tried : List Method}
    {outcome : Except SolveFault Timetable} (concludes : p.Concludes budget tried outcome) :
    p.Ruled (.ofOutcome outcome) := by
  cases concludes with
  | scheduled t sound =>
    obtain ⟨lessons, schedule, -⟩ := sound.schedule
    exact .scheduled ⟨lessons, schedule⟩
  | infeasible nothing =>
    apply Ruled.infeasible
    rintro ⟨lessons, schedule⟩
    exact nothing lessons schedule
  | outOfBudget => exact .outOfBudget

section Ruled

variable {q : Problem} {first second : Ruling}

theorem Ruled.feasible (ruled : p.Ruled first) (scheduled : first = .scheduled) : p.Feasible := by
  cases ruled with
  | scheduled feasible => exact feasible
  | infeasible => cases scheduled
  | outOfBudget => cases scheduled

theorem Ruled.eq_scheduled (ruled : p.Ruled first) (feasible : p.Feasible)
    (within : first ≠ .outOfBudget) : first = .scheduled := by
  cases ruled with
  | scheduled => rfl
  | infeasible nothing => exact absurd feasible nothing
  | outOfBudget => exact absurd rfl within

theorem Ruled.eq_infeasible (ruled : p.Ruled first) (nothing : ¬ p.Feasible)
    (within : first ≠ .outOfBudget) : first = .infeasible := by
  cases ruled with
  | scheduled feasible => exact absurd feasible nothing
  | infeasible => rfl
  | outOfBudget => exact absurd rfl within

theorem Ruled.agree (ruled : p.Ruled first) (ruled' : q.Ruled second)
    (same : p.Feasible ↔ q.Feasible) (within : first ≠ .outOfBudget)
    (within' : second ≠ .outOfBudget) :
    (first = .scheduled ∨ first = .infeasible) ∧ second = first := by
  cases ruled with
  | scheduled feasible => exact ⟨.inl rfl, ruled'.eq_scheduled (same.mp feasible) within'⟩
  | infeasible nothing => exact ⟨.inr rfl, ruled'.eq_infeasible (mt same.mpr nothing) within'⟩
  | outOfBudget => exact absurd rfl within

end Ruled

theorem fault?_eq_none_of_infeasible {σ : Type} [RandomSource σ] {settings : Settings} {source : σ}
    {deadlines : Deadlines}
    (ruled : Ruling.ofOutcome (p.solve settings source deadlines) = .infeasible) :
    p.fault? = none := by
  unfold solve at ruled
  split at ruled
  next => cases ruled
  next faultless => exact faultless

end Problem

/-- The lists that a problem is built from. -/
structure Draft where
  sections : List Section
  classrooms : List Classroom
  slots : List TimeSlot
  preferences : List (String × List String) := []
  enrollments : List (String × List String) := []

def Section.unranked (sec : Section) : Section :=
  { sec with required := false }

def Classroom.bare (room : Classroom) : Classroom :=
  { room with features := [] }

namespace Draft

def problem (d : Draft) : Problem :=
  .build d.sections d.classrooms d.slots d.preferences d.enrollments

/-- The same sections, classrooms, slots and enrollments in another order, with other flags,
features and preferences. -/
structure Restates (d e : Draft) : Prop where
  sections : (d.sections.map Section.unranked).Perm (e.sections.map Section.unranked)
  classrooms : (d.classrooms.map Classroom.bare).Perm (e.classrooms.map Classroom.bare)
  slots : d.slots.Perm e.slots
  enrolled : ∀ student id,
    Enrolled d.enrollments student id ↔ Enrolled e.enrollments student id

/-- The second draft asks no more than the first: its sections are among those of the first or
smaller, it still has the classrooms, which may have grown, and the slots of the first, and it
enrolls nobody else. -/
structure Eases (d e : Draft) : Prop where
  sections : ∀ sec ∈ e.sections, ∃ given ∈ d.sections,
    given.id = sec.id ∧ given.instructor = sec.instructor ∧ sec.capacity ≤ given.capacity
  classrooms : ∀ room ∈ d.classrooms, ∃ kept ∈ e.classrooms,
    kept.id = room.id ∧ room.capacity ≤ kept.capacity
  slots : d.slots ⊆ e.slots
  enrolled : ∀ student id, Enrolled e.enrollments student id → Enrolled d.enrollments student id

end Draft

/-- A lesson at the place and time of another one of the same section, with no more students. -/
structure Lesson.Covers (l m : Lesson) : Prop where
  id_eq : l.session.id = m.session.id
  instructor_eq : l.session.instructor = m.session.instructor
  classroom_eq : l.placement.classroom.id = m.placement.classroom.id
  slot_eq : l.placement.slot = m.placement.slot
  students : m.session.students ⊆ l.session.students

theorem Lesson.Covers.clash {l₁ l₂ m₁ m₂ : Lesson} (first : l₁.Covers m₁) (second : l₂.Covers m₂)
    (clash : m₁.Clash m₂) : l₁.Clash l₂ := by
  obtain ⟨sameKey, shared⟩ := clash
  refine ⟨?_, ?_⟩
  · unfold Lesson.slotKey at sameKey ⊢
    rw [first.slot_eq, second.slot_eq, sameKey]
  · rw [first.instructor_eq, second.instructor_eq, first.classroom_eq, second.classroom_eq]
    rcases shared with instructor | classroom | ⟨student, ofFirst, ofSecond⟩
    · exact .inl instructor
    · exact .inr (.inl classroom)
    · exact .inr (.inr ⟨student, first.students ofFirst, second.students ofSecond⟩)

namespace Draft

variable {d e : Draft}

theorem mem_slots_problem {slot : TimeSlot} : slot ∈ d.problem.slots ↔ slot ∈ d.slots :=
  List.mem_eraseDups

section Transfer

variable (eases : d.Eases e) {lessons : List Lesson} (schedule : d.problem.IsSchedule lessons)

include eases schedule

/-- A section is given the place of the section that it comes from. -/
theorem Eases.exists_lesson {sec : Section} (listed : sec ∈ e.sections) :
    ∃ m : Lesson, m.session = e.problem.session sec ∧ e.problem.Offers m ∧
      ∃ l ∈ lessons, l.Covers m := by
  obtain ⟨given, known, id, instructor, smaller⟩ := eases.sections sec listed
  obtain ⟨l, membership, session⟩ := schedule.exists_lesson known
  have offered := schedule.offered l membership
  obtain ⟨room, kept, sameRoom, larger⟩ := eases.classrooms _ offered.classroom_mem
  have fitting := offered.capacity_le
  rw [session] at fitting
  refine ⟨⟨e.problem.session sec, ⟨room, l.placement.slot⟩⟩, rfl, ?offers, l, membership, ?covers⟩
  case offers =>
    refine ⟨kept, ?_, ?_⟩
    · apply mem_slots_problem.mpr
      exact eases.slots (mem_slots_problem.mp offered.slot_mem)
    · exact smaller.trans (fitting.trans larger)
  case covers =>
    refine ⟨?_, ?_, sameRoom.symm, rfl, ?_⟩
    · rw [session]
      exact id
    · rw [session]
      exact instructor
    · intro student attends
      rw [session]
      have enrolled := (Problem.mem_studentsOf_build ..).mp attends
      rw [← id] at enrolled
      exact (Problem.mem_studentsOf_build ..).mpr (eases.enrolled student given.id enrolled)

theorem Eases.exists_lessons {sections : List Section} (listed : sections ⊆ e.sections)
    (distinct : (sections.map Section.id).Nodup) :
    ∃ moved : List Lesson, moved.map Lesson.session = sections.map e.problem.session ∧
      (∀ m ∈ moved, e.problem.Offers m ∧ ∃ l ∈ lessons, l.Covers m) ∧ Lesson.Apart moved := by
  induction sections with
  | nil => exact ⟨[], rfl, by simp, List.Pairwise.nil⟩
  | cons sec rest ih =>
    obtain ⟨first, others⟩ := List.cons_subset.mp listed
    obtain ⟨fresh, distinct⟩ := List.nodup_cons.mp distinct
    obtain ⟨m, session, offers, l, known, covers⟩ := eases.exists_lesson schedule first
    obtain ⟨moved, sessions, placed, apart⟩ := ih others distinct
    refine ⟨m :: moved, by simp [session, sessions],
      List.forall_mem_cons.mpr ⟨⟨offers, l, known, covers⟩, placed⟩,
      Lesson.apart_cons.mpr ⟨?_, apart⟩⟩
    intro other membership clash
    obtain ⟨-, l', known', covers'⟩ := placed other membership
    -- The two lessons are covered by lessons of different sections, which do not clash.
    have different : l ≠ l' := by
      rintro rfl
      have session' : other.session ∈ rest.map e.problem.session :=
        sessions ▸ List.mem_map_of_mem membership
      obtain ⟨sec', later, same⟩ := List.mem_map.mp session'
      have sameId : sec'.id = sec.id := by
        calc sec'.id = other.session.id := congrArg (fun session : Session => session.id) same
          _ = m.session.id := covers'.id_eq.symm.trans covers.id_eq
          _ = sec.id := congrArg (fun session : Session => session.id) session
      exact fresh (sameId ▸ List.mem_map_of_mem later)
    exact schedule.apart.separate known known' different (covers.clash covers' clash)

end Transfer

theorem Eases.feasible (eases : d.Eases e) (distinct : (e.sections.map Section.id).Nodup)
    (feasible : d.problem.Feasible) : e.problem.Feasible := by
  obtain ⟨lessons, schedule⟩ := feasible
  obtain ⟨moved, sessions, placed, apart⟩ :=
    eases.exists_lessons schedule (List.Subset.refl _) distinct
  refine ⟨moved, ?_, fun m membership => (placed m membership).1, apart⟩
  rw [sessions]
  rfl

section Restating

variable (restates : d.Restates e)

include restates

theorem Restates.symm : e.Restates d where
  sections := restates.sections.symm
  classrooms := restates.classrooms.symm
  slots := restates.slots.symm
  enrolled student id := (restates.enrolled student id).symm

theorem Restates.exists_section {sec : Section} (listed : sec ∈ e.sections) :
    ∃ given ∈ d.sections,
      given.id = sec.id ∧ given.instructor = sec.instructor ∧ given.capacity = sec.capacity := by
  have found := restates.sections.mem_iff.mpr (List.mem_map_of_mem listed)
  obtain ⟨given, known, same⟩ := List.mem_map.mp found
  simp only [Section.unranked, Section.mk.injEq, and_true] at same
  exact ⟨given, known, same⟩

theorem Restates.exists_classroom {room : Classroom} (listed : room ∈ e.classrooms) :
    ∃ given ∈ d.classrooms, given.id = room.id ∧ given.capacity = room.capacity := by
  have found := restates.classrooms.mem_iff.mpr (List.mem_map_of_mem listed)
  obtain ⟨given, known, same⟩ := List.mem_map.mp found
  simp only [Classroom.bare, Classroom.mk.injEq, and_true] at same
  exact ⟨given, known, same⟩

theorem Restates.eases : d.Eases e where
  sections sec listed := by
    obtain ⟨given, known, id, instructor, capacity⟩ := restates.exists_section listed
    exact ⟨given, known, id, instructor, capacity.ge⟩
  classrooms room listed := by
    obtain ⟨kept, known, id, capacity⟩ := restates.symm.exists_classroom listed
    exact ⟨kept, known, id, capacity.ge⟩
  slots := restates.slots.subset
  enrolled student id := (restates.enrolled student id).mpr

theorem Restates.sectionIds_perm : d.problem.sectionIds.Perm e.problem.sectionIds := by
  have ids := restates.sections.map Section.id
  rw [List.map_map, List.map_map] at ids
  exact ids

theorem Restates.classroomIds_perm : d.problem.classroomIds.Perm e.problem.classroomIds := by
  have ids := restates.classrooms.map Classroom.id
  rw [List.map_map, List.map_map] at ids
  exact ids

theorem Restates.accepted (accepted : d.problem.Accepted) : e.problem.Accepted where
  classrooms_ne_nil roomless := by
    have rooms := restates.classroomIds_perm.length_eq
    rw [Problem.classroomIds, Problem.classroomIds, roomless, List.length_map] at rooms
    exact accepted.classrooms_ne_nil (List.eq_nil_of_length_eq_zero rooms)
  slots_ne_nil taught slotless := by
    have ids := restates.sectionIds_perm.length_eq
    rw [Problem.sectionIds, Problem.sectionIds, List.length_map, List.length_map] at ids
    apply accepted.slots_ne_nil
    · intro empty
      rw [empty] at ids
      exact taught (List.eq_nil_of_length_eq_zero ids.symm)
    · apply List.eq_nil_iff_forall_not_mem.mpr
      intro slot offered
      have kept := mem_slots_problem.mpr (restates.slots.subset (mem_slots_problem.mp offered))
      rw [slotless] at kept
      exact List.not_mem_nil kept
  section_capacity_pos sec listed := by
    obtain ⟨given, known, -, -, capacity⟩ := restates.exists_section listed
    exact capacity ▸ accepted.section_capacity_pos given known
  classroom_capacity_pos room listed := by
    obtain ⟨given, known, -, capacity⟩ := restates.exists_classroom listed
    exact capacity ▸ accepted.classroom_capacity_pos given known
  sectionIds_nodup := restates.sectionIds_perm.nodup accepted.sectionIds_nodup
  classroomIds_nodup := restates.classroomIds_perm.nodup accepted.classroomIds_nodup
  enrolled_known := by
    have known := (Problem.enrolled_known_build_iff ..).mp accepted.enrolled_known
    apply (Problem.enrolled_known_build_iff ..).mpr
    intro student id enrolled
    apply restates.sectionIds_perm.subset
    exact known student id ((restates.enrolled student id).mpr enrolled)

theorem Restates.feasible_iff (accepted : d.problem.Accepted) :
    d.problem.Feasible ↔ e.problem.Feasible :=
  ⟨restates.eases.feasible (restates.accepted accepted).sectionIds_nodup,
    restates.symm.eases.feasible accepted.sectionIds_nodup⟩

end Restating

/-- Lists in another order, of which every student has one list of sections. -/
theorem Restates.of_perm (once : (d.enrollments.map Prod.fst).Nodup)
    (sections : (d.sections.map Section.unranked).Perm (e.sections.map Section.unranked))
    (classrooms : (d.classrooms.map Classroom.bare).Perm (e.classrooms.map Classroom.bare))
    (slots : d.slots.Perm e.slots) (enrollments : d.enrollments.Perm e.enrollments) :
    d.Restates e :=
  ⟨sections, classrooms, slots, fun _ _ => enrolled_perm once enrollments⟩

theorem ruled_solve {σ : Type} [RandomSource σ] {settings : Settings} (source : σ)
    (deadlines : Deadlines) (accepted : d.problem.fault? = none) (valid : settings.Valid) :
    d.problem.Ruled (.ofOutcome (d.problem.solve settings source deadlines)) := by
  have once : ∀ sectionId, (d.problem.studentsOf sectionId).Nodup :=
    Problem.nodup_students_build d.sections d.classrooms d.slots d.preferences d.enrollments
  have sound := Problem.fault?_eq_none_iff.mp accepted
  exact (Problem.concludes_solve sound once valid source deadlines).ruled

/-- Two solves that stay within their budgets agree on problems that differ in order, flags,
features and preferences, whatever their settings and sources of random words are, and a problem
that is only made easier stays one that has a timetable. -/
theorem solve_rules_alike {σ τ : Type} [RandomSource σ] [RandomSource τ] (d e : Draft)
    (settings settings' : Settings) (source : σ) (source' : τ) (deadlines deadlines' : Deadlines)
    (accepted : d.problem.fault? = none) (valid : settings.Valid) (valid' : settings'.Valid) :
    let first := Ruling.ofOutcome (d.problem.solve settings source deadlines)
    let second := Ruling.ofOutcome (e.problem.solve settings' source' deadlines')
    (d.Restates e → first ≠ .outOfBudget → second ≠ .outOfBudget →
      (first = .scheduled ∨ first = .infeasible) ∧ second = first) ∧
    (d.Eases e → first = .scheduled → second ≠ .infeasible ∧
      (e.problem.fault? = none → second ≠ .outOfBudget → second = .scheduled)) := by
  intro first second
  have sound := Problem.fault?_eq_none_iff.mp accepted
  have ruled : d.problem.Ruled first := d.ruled_solve source deadlines accepted valid
  have ruled' (accepted' : e.problem.fault? = none) : e.problem.Ruled second :=
    e.ruled_solve source' deadlines' accepted' valid'
  refine ⟨?restated, ?eased⟩
  case restated =>
    intro restates within within'
    have accepted' := Problem.fault?_eq_none_iff.mpr (restates.accepted sound)
    exact ruled.agree (ruled' accepted') (restates.feasible_iff sound) within within'
  case eased =>
    intro eases scheduled
    have feasible (accepted' : e.problem.fault? = none) : e.problem.Feasible :=
      eases.feasible (Problem.fault?_eq_none_iff.mp accepted').sectionIds_nodup
        (ruled.feasible scheduled)
    have again (accepted' : e.problem.fault? = none) (within' : second ≠ .outOfBudget) :
        second = .scheduled :=
      (ruled' accepted').eq_scheduled (feasible accepted') within'
    refine ⟨?never, again⟩
    intro infeasible
    have accepted' := Problem.fault?_eq_none_of_infeasible infeasible
    have scheduled' := again accepted' (by rw [infeasible]; decide)
    cases infeasible.symm.trans scheduled'

/-- Two sections that share a student, and an hour for each of them. -/
def fresher : Draft where
  sections := [⟨"calculus", "ada", 20, true⟩, ⟨"logic", "kurt", 30, false⟩]
  classrooms := [⟨"cellar", 20, ["piano"]⟩, ⟨"hall", 30, []⟩]
  slots := [⟨"Monday", "09:00", "10:00"⟩, ⟨"Monday", "10:00", "11:00"⟩]
  enrollments := [("emmy", ["calculus", "logic"]), ("sofia", ["logic"])]

def sophomore : Draft where
  sections := [⟨"logic", "kurt", 30, true⟩, ⟨"calculus", "ada", 20, false⟩]
  classrooms := [⟨"hall", 30, ["stage"]⟩, ⟨"cellar", 20, []⟩]
  slots := [⟨"Monday", "10:00", "11:00"⟩, ⟨"Monday", "09:00", "10:00"⟩]
  preferences := [("ada", ["Monday_10:00_11:00"])]
  enrollments := [("sofia", ["logic"]), ("emmy", ["calculus", "logic"])]

def semester : Draft where
  sections := [⟨"logic", "kurt", 25, false⟩]
  classrooms := [⟨"cellar", 25, []⟩, ⟨"hall", 30, []⟩, ⟨"attic", 10, []⟩]
  slots := [⟨"Monday", "10:00", "11:00"⟩, ⟨"Monday", "09:00", "10:00"⟩]
  enrollments := [("sofia", ["logic"])]

theorem solve_rules_alike_fresher :
    let first := Ruling.ofOutcome (fresher.problem.solve {} (MersenneTwister.ofSeed 1) .never)
    let second (e : Draft) := Ruling.ofOutcome
      (e.problem.solve { maxSteps := 9 } (MersenneTwister.ofSeed 2) .never)
    fresher.problem.fault? = none ∧ Settings.Valid {} ∧ Settings.Valid { maxSteps := 9 } ∧
      first = .scheduled ∧ fresher.Restates sophomore ∧ second sophomore = first ∧
      fresher.Eases semester ∧ second semester ≠ .infeasible := by
  have restates : fresher.Restates sophomore :=
    .of_perm (by decide) (by decide) (by decide) (by decide) (by decide)
  have eases : fresher.Eases semester := by
    refine ⟨by decide, by decide, by decide, fun student id enrolled => ?_⟩
    obtain ⟨ids, listed, attended⟩ := (enrolled_iff (by decide)).mp enrolled
    obtain ⟨rfl, rfl⟩ := Prod.mk.inj (List.mem_singleton.mp listed)
    exact (enrolled_iff (by decide)).mpr ⟨["logic"], by decide, attended⟩
  have accepted : fresher.problem.fault? = none := by decide +kernel
  have valid : Settings.Valid { maxSteps := 9 } :=
    { Settings.valid_default with maxSteps_pos := by decide, maxSteps_le := by decide }
  have scheduled : Ruling.ofOutcome
      (fresher.problem.solve {} (MersenneTwister.ofSeed 1) .never) = .scheduled := by
    decide +kernel
  have alike (e : Draft) := solve_rules_alike fresher e {} { maxSteps := 9 }
    (MersenneTwister.ofSeed 1) (MersenneTwister.ofSeed 2) .never .never accepted
    Settings.valid_default valid
  exact ⟨accepted, Settings.valid_default, valid, scheduled, restates,
    ((alike sophomore).1 restates (by decide +kernel) (by decide +kernel)).2,
    eases, ((alike semester).2 eases scheduled).1⟩

end Draft

end Timetabling
