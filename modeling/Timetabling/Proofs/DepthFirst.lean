import Timetabling.Proofs.Schedule
import Timetabling.Search.Candidates

/-!
# Depth-first search

The recursive search that the exact solver carries out with a stack of frames. It knows the lessons
placed so far and nothing else: classrooms are ordered by the slot keys that these lessons use, and
a candidate is followed if it clashes with none of them. The search is sound, and complete over all
schedules of the problem.
-/

namespace Timetabling

/-- What a search comes to: all lessons, the latest first, if every session could be placed, and
the number of candidates that were tried. -/
structure Finding where
  lessons : Option (List Lesson)
  steps : Nat
deriving DecidableEq, Repr

namespace Finding

def after (f : Finding) (earlier : Nat) : Finding :=
  ⟨f.lessons, earlier + f.steps⟩

def orElse (first second : Finding) : Finding :=
  match first.lessons with
  | some _ => first
  | none => second.after first.steps

@[simp] theorem lessons_after (f : Finding) (n : Nat) : (f.after n).lessons = f.lessons := rfl

@[simp] theorem steps_after (f : Finding) (n : Nat) : (f.after n).steps = n + f.steps := rfl

@[simp] theorem after_zero (f : Finding) : f.after 0 = f := by
  simp [after]

@[simp] theorem after_after (f : Finding) (m n : Nat) : (f.after m).after n = f.after (n + m) := by
  simp [after, Nat.add_assoc]

@[simp] theorem lessons_orElse (first second : Finding) :
    (first.orElse second).lessons = first.lessons.or second.lessons := by
  unfold orElse
  cases found : first.lessons <;> simp [found]

@[simp] theorem nothing_orElse (n : Nat) (f : Finding) : (orElse ⟨none, n⟩ f) = f.after n := rfl

theorem after_orElse (first second : Finding) (n : Nat) :
    (first.after n).orElse second = (first.orElse second).after n := by
  obtain ⟨lessons | lessons, steps⟩ := first
  · change second.after (n + steps) = (second.after steps).after n
    rw [after_after]
  · rfl

theorem orElse_assoc (first second third : Finding) :
    (first.orElse second).orElse third = first.orElse (second.orElse third) := by
  obtain ⟨lessons | lessons, steps⟩ := first
  · rw [nothing_orElse, nothing_orElse, after_orElse]
  · rfl

end Finding

/-- Whether a classroom is to be tried no later than another: the one that lessons use at fewer slot
keys comes first, and the larger one of two that are used alike. -/
def Lesson.prefers (placed : List Lesson) (a b : Classroom) : Bool :=
  let usedA := (keysIn placed a.id).card
  let usedB := (keysIn placed b.id).card
  usedA < usedB || (usedA == usedB && decide (b.capacity ≤ a.capacity))

/-- Tries placements for a session one after another and descends on each that clashes with no
lesson placed so far, until a descent finds something. -/
def tryEach (descend : List Lesson → Finding) (placed : List Lesson) (session : Session) :
    List Placement → Finding
  | [] => ⟨none, 0⟩
  | c :: rest =>
    if ∀ other ∈ placed, ¬ (⟨session, c⟩ : Lesson).Clash other then
      ((descend (⟨session, c⟩ :: placed)).orElse (tryEach descend placed session rest)).after 1
    else (tryEach descend placed session rest).after 1

namespace Problem

/-- The placements to be tried for a session after some lessons: the large enough classrooms in the
order of preference, each with every slot. -/
def placementsAfter (p : Problem) (placed : List Lesson) (session : Session) : List Placement :=
  (stableSort (Lesson.prefers placed)
    (eligibleClassrooms p.classrooms session.toSection)).flatMap fun room =>
      p.slots.map fun slot => ⟨room, slot⟩

/-- Places sessions in order on top of the lessons placed so far. -/
def depthFirst (p : Problem) : List Session → List Lesson → Finding
  | [], placed => ⟨some placed, 0⟩
  | session :: later, placed =>
    tryEach (p.depthFirst later) placed session (p.placementsAfter placed session)

def agenda (p : Problem) : List Session :=
  (priorityOrder p.sections).map p.session

/-- The depth-first search for a schedule of the problem. -/
def exploration (p : Problem) : Finding :=
  p.depthFirst p.agenda []

end Problem

variable {descend : List Lesson → Finding} {placed found : List Lesson} {session : Session}
  {cs : List Placement}

theorem tryEach_some (result : (tryEach descend placed session cs).lessons = some found) :
    ∃ c ∈ cs, (∀ other ∈ placed, ¬ (⟨session, c⟩ : Lesson).Clash other) ∧
      (descend (⟨session, c⟩ :: placed)).lessons = some found := by
  induction cs with
  | nil => simp [tryEach] at result
  | cons c rest ih =>
    unfold tryEach at result
    split at result
    next separate =>
      rw [Finding.lessons_after, Finding.lessons_orElse, Option.or_eq_some_iff] at result
      rcases result with here | ⟨-, later⟩
      · exact ⟨c, List.mem_cons_self, separate, here⟩
      · obtain ⟨d, membership, rest⟩ := ih later
        exact ⟨d, List.mem_cons_of_mem _ membership, rest⟩
    next =>
      obtain ⟨d, membership, rest⟩ := ih result
      exact ⟨d, List.mem_cons_of_mem _ membership, rest⟩

theorem tryEach_none (result : (tryEach descend placed session cs).lessons = none)
    {c : Placement} (membership : c ∈ cs)
    (separate : ∀ other ∈ placed, ¬ (⟨session, c⟩ : Lesson).Clash other) :
    (descend (⟨session, c⟩ :: placed)).lessons = none := by
  induction cs with
  | nil => simp at membership
  | cons d rest ih =>
    unfold tryEach at result
    rcases List.mem_cons.mp membership with rfl | later
    · rw [if_pos separate, Finding.lessons_after, Finding.lessons_orElse,
        Option.or_eq_none_iff] at result
      exact result.1
    · split at result
      next =>
        rw [Finding.lessons_after, Finding.lessons_orElse, Option.or_eq_none_iff] at result
        exact ih result.2 later
      next => exact ih result later

theorem tryEach_steps_pos (result : (tryEach descend placed session cs).lessons = some found) :
    0 < (tryEach descend placed session cs).steps := by
  cases cs with
  | nil => simp [tryEach] at result
  | cons c rest =>
    unfold tryEach
    split <;> simp only [Finding.steps_after] <;> omega

namespace Problem

variable {p : Problem}

theorem mem_placementsAfter {c : Placement} :
    c ∈ p.placementsAfter placed session ↔ p.Offers ⟨session, c⟩ := by
  simp only [placementsAfter, eligibleClassrooms, stableSort_eq_mergeSort, List.mem_flatMap,
    List.mem_mergeSort, List.mem_filter, decide_eq_true_eq, List.mem_map]
  constructor
  · rintro ⟨room, ⟨known, large⟩, slot, offered, rfl⟩
    exact ⟨known, offered, large⟩
  · rintro ⟨known, offered, large⟩
    exact ⟨c.classroom, ⟨known, large⟩, c.slot, offered, rfl⟩

/-- What is found adds an offered lesson for each session and no clash. -/
theorem depthFirst_sound {sessions : List Session}
    (result : (p.depthFirst sessions placed).lessons = some found) :
    ∃ added, found = added ++ placed ∧ added.map Lesson.session = sessions.reverse ∧
      (∀ l ∈ added, p.Offers l) ∧ (Lesson.Apart placed → Lesson.Apart found) := by
  induction sessions generalizing placed with
  | nil =>
    obtain rfl : placed = found := by simpa [depthFirst] using result
    exact ⟨[], rfl, rfl, by simp, id⟩
  | cons session later ih =>
    obtain ⟨c, candidate, separate, descent⟩ := tryEach_some result
    obtain ⟨added, rfl, sessions, offered, apart⟩ := ih descent
    refine ⟨added ++ [⟨session, c⟩], by simp, by simp [sessions], ?_, ?_⟩
    · intro l membership
      rcases List.mem_append.mp membership with earlier | last
      · exact offered l earlier
      · rw [List.mem_singleton.mp last]
        exact mem_placementsAfter.mp candidate
    · intro placedApart
      exact apart (Lesson.apart_cons.mpr ⟨separate, placedApart⟩)

/-- Where lessons for all sessions could be added without a clash, something is found. -/
theorem depthFirst_complete {sessions : List Session} {chosen : List Lesson}
    (result : (p.depthFirst sessions placed).lessons = none)
    (complete : chosen.map Lesson.session = sessions) (offered : ∀ l ∈ chosen, p.Offers l) :
    ¬ Lesson.Apart (chosen.reverse ++ placed) := by
  induction sessions generalizing placed chosen with
  | nil => simp [depthFirst] at result
  | cons session later ih =>
    obtain ⟨l, rest, rfl, rfl, remaining⟩ := List.map_eq_cons_iff.mp complete
    intro apart
    rw [List.reverse_cons, List.append_assoc, List.singleton_append] at apart
    -- The first chosen lesson is among the candidates, so the descent on it has failed too.
    have first : Lesson.Apart (l :: placed) := (List.pairwise_append.mp apart).2.1
    have candidate : l.placement ∈ p.placementsAfter placed l.session :=
      mem_placementsAfter.mpr (offered l List.mem_cons_self)
    have descent := tryEach_none result candidate (Lesson.apart_cons.mp first).1
    exact ih descent remaining (fun l' membership => offered l' (List.mem_cons_of_mem _ membership))
      apart

theorem agenda_perm (p : Problem) : p.agenda.Perm p.sessions := by
  unfold agenda priorityOrder
  rw [stableSort_eq_mergeSort]
  exact (List.mergeSort_perm _ _).map _

theorem exploration_sound (result : p.exploration.lessons = some found) :
    p.IsSchedule found ∧ found.reverse.map Lesson.session = p.agenda := by
  obtain ⟨added, rfl, sessions, offered, apart⟩ := depthFirst_sound result
  rw [List.append_nil] at apart ⊢
  refine ⟨⟨?_, offered, apart List.Pairwise.nil⟩, ?_⟩
  · rw [sessions]
    exact (List.reverse_perm _).trans p.agenda_perm
  · rw [List.map_reverse, sessions, List.reverse_reverse]

theorem exploration_complete (result : p.exploration.lessons = none) (lessons : List Lesson) :
    ¬ p.IsSchedule lessons := by
  intro schedule
  obtain ⟨listing, listed, sessions⟩ := schedule.exists_listing p.agenda_perm
  have apart := (listed.perm (List.reverse_perm listing).symm).apart
  rw [← List.append_nil listing.reverse] at apart
  exact depthFirst_complete result sessions listed.offered apart

end Problem

end Timetabling
