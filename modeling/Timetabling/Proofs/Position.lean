import Timetabling.Proofs.Seeking
import Timetabling.Search.Exact

/-!
# The stack of frames and the recursion

`Position.Coherent` is the invariant of the search loop: the progress stands for exactly the
placements of the frames. `Position.prospect` is what the recursive search would still find from a
position, frame by frame. One iteration keeps the invariant and takes from the prospect no more than
the steps that it counts, so a run that is not stopped ends as the recursion does.
-/

namespace Timetabling

def Frame.lesson? (f : Frame) : Option Lesson :=
  f.placement.map (Lesson.mk f.session)

def Frame.lessons (frames : List Frame) : List Lesson :=
  frames.filterMap Frame.lesson?

/-- The reservations and the assignments in force are those of the lessons, no two of which clash.
-/
structure Progress.Holds (p : Progress) (lessons : List Lesson) : Prop where
  placed : p.placed = lessons.map Lesson.assignment
  books : p.reservations.Books lessons
  apart : Lesson.Apart lessons

theorem Progress.holds_empty : Progress.Holds {} [] where
  placed := rfl
  books := Reservations.books_empty
  apart := List.Pairwise.nil

namespace Frame

theorem holds_place {f : Frame} {c : Placement} {p : Progress} {lessons : List Lesson}
    (holds : p.Holds lessons)
    (separate : ∀ other ∈ lessons, ¬ (⟨f.session, c⟩ : Lesson).Clash other) :
    (f.place c p).2.Holds (⟨f.session, c⟩ :: lessons) where
  placed := by
    rw [List.map_cons, ← holds.placed]
    rfl
  books := holds.books.place f.session c
  apart := Lesson.apart_cons.mpr ⟨separate, holds.apart⟩

theorem holds_unplace {f : Frame} {below : List Frame} {p : Progress}
    (holds : p.Holds (lessons (f :: below))) : (f.unplace p).2.Holds (lessons below) := by
  unfold unplace
  cases placed : f.placement with
  | none => simpa [lessons, lesson?, placed] using holds
  | some c =>
    have top : lessons (f :: below) = ⟨f.session, c⟩ :: lessons below := by
      simp [lessons, lesson?, placed]
    rw [top] at holds
    obtain ⟨separate, apart⟩ := Lesson.apart_cons.mp holds.apart
    exact ⟨by simp [holds.placed], holds.books.unplace separate, apart⟩

theorem unplace_fst (f : Frame) (p : Progress) :
    (f.unplace p).1 = { f with placement := none } := by
  obtain ⟨session, remaining, placement⟩ := f
  cases placement <;> rfl

theorem progress_unplace (f : Frame) (p : Progress) :
    (f.unplace p).2.steps = p.steps ∧ (f.unplace p).2.readings = p.readings ∧
      (f.unplace p).2.stopped = p.stopped := by
  unfold unplace
  split <;> exact ⟨rfl, rfl, rfl⟩

/-- The placements that the recursive search has left to try for a frame, above the given lessons.
-/
def left (problem : Problem) (placed : List Lesson) (f : Frame) : List Placement :=
  f.remaining.getD (problem.placementsAfter placed f.session)

/-- With the reservations of the lessons below it, a frame tries what the recursive search tries. -/
theorem candidates_eq {problem : Problem} {r : Reservations} {placed : List Lesson}
    (books : r.Books placed) (f : Frame) : f.candidates problem r = f.left problem placed := by
  have order : r.prefers = Lesson.prefers placed := by
    funext a b
    simp only [Reservations.prefers, Lesson.prefers, books.usage_classroom]
  simp only [candidates, left, Problem.candidates, Problem.candidateClassrooms,
    Problem.placementsAfter, order]

end Frame

namespace Position

/-- The invariant of the search for the sessions of an agenda. -/
structure Coherent (problem : Problem) (agenda : List Session) (s : Position) : Prop where
  /-- The frames are for the first sessions of the agenda, in this order. -/
  agenda_eq : (s.frames.map Frame.session).reverse ++ s.pending = agenda
  /-- Every frame below the top has a placement. -/
  placed_below : ∀ f ∈ s.frames.tail, f.placement.isSome = true
  holds : s.progress.Holds (Frame.lessons s.frames)
  /-- Only offered placements are left to try. -/
  offered : ∀ f ∈ s.frames, ∀ cs ∈ f.remaining, ∀ c ∈ cs, problem.Offers ⟨f.session, c⟩
  running : s.progress.stopped = false

/-- What the recursive search still finds from a stack of frames with the given sessions to come.
-/
def ahead (problem : Problem) : List Frame → List Session → Finding
  | [], _ => ⟨none, 0⟩
  | f :: below, pending =>
    (tryEach (problem.depthFirst pending) (Frame.lessons below) f.session
      (f.left problem (Frame.lessons below))).orElse (ahead problem below (f.session :: pending))

/-- What the recursive search still finds from a position. -/
def prospect (problem : Problem) (s : Position) : Finding :=
  ahead problem s.frames s.pending

theorem ahead_steps_pos {problem : Problem} {frames : List Frame} {pending : List Session}
    (found : (ahead problem frames pending).lessons.isSome = true) :
    0 < (ahead problem frames pending).steps := by
  induction frames generalizing pending with
  | nil => simp [ahead] at found
  | cons f below ih =>
    unfold ahead at found ⊢
    unfold Finding.orElse at found ⊢
    split
    next lessons here => exact tryEach_steps_pos here
    next nothing =>
      rw [nothing] at found
      exact Nat.add_pos_right _ (ih found)

/-- Before an iteration the steps are within the budget, and below it once no frame is left. -/
def Within (budget : Budget) (s : Position) : Prop :=
  s.progress.steps ≤ budget.maxSteps ∧ (s.frames = [] → s.progress.steps < budget.maxSteps)

/-- What an iteration can come to, and what it takes from the prospect. -/
inductive Advance (problem : Problem) (budget : Budget) (agenda : List Session) (s : Position) :
    Outcome → Prop where
  | continued (t : Position) (tried : Nat) (coherent : t.Coherent problem agenda)
      (within : t.Within budget) (steps : t.progress.steps = s.progress.steps + tried)
      (prospect : s.prospect problem = (t.prospect problem).after tried) :
      Advance problem budget agenda s (.continued t)
  | complete (p : Progress) (lessons : List Lesson) (tried : Nat)
      (holds : p.Holds lessons) (running : p.stopped = false)
      (within : p.steps ≤ budget.maxSteps) (steps : p.steps = s.progress.steps + tried)
      (prospect : s.prospect problem = ⟨some lessons, tried⟩) :
      Advance problem budget agenda s (.ended .complete p)
  | exhausted (empty : s.frames = []) :
      Advance problem budget agenda s (.ended .exhausted s.progress)
  | outOfBudget (p : Progress) (rest : Finding) (tried : Nat) (stopped : p.stopped = true)
      (usedUp : budget.UsedUp p.steps p.readings) (within : p.steps ≤ budget.maxSteps)
      (steps : p.steps = s.progress.steps + tried)
      (prospect : s.prospect problem = rest.after tried)
      (more : rest.lessons.isSome = true → 0 < rest.steps) :
      Advance problem budget agenda s (.ended .outOfBudget p)

section Step

variable {problem : Problem} {budget : Budget} {agenda : List Session} {top : Frame}
  {below : List Frame} {pending : List Session} {progress p : Progress}

theorem prospect_cons :
    prospect problem ⟨top :: below, pending, progress⟩ =
      (tryEach (problem.depthFirst pending) (Frame.lessons below) top.session
        (top.left problem (Frame.lessons below))).orElse
          (ahead problem below (top.session :: pending)) := rfl

theorem Coherent.offered_left
    (coherent : Coherent problem agenda ⟨top :: below, pending, progress⟩) :
    ∀ c ∈ top.left problem (Frame.lessons below), problem.Offers ⟨top.session, c⟩ := by
  intro c membership
  unfold Frame.left at membership
  cases drawn : top.remaining with
  | none =>
    rw [drawn] at membership
    exact Problem.mem_placementsAfter.mp membership
  | some cs =>
    rw [drawn] at membership
    exact coherent.offered top List.mem_cons_self cs drawn c membership

theorem Coherent.drop (coherent : Coherent problem agenda ⟨top :: below, pending, progress⟩)
    (holds : p.Holds (Frame.lessons below)) (running : p.stopped = false) :
    Coherent problem agenda ⟨below, top.session :: pending, p⟩ where
  agenda_eq := by simpa using coherent.agenda_eq
  placed_below f membership := coherent.placed_below f (List.mem_of_mem_tail membership)
  holds := holds
  offered f membership := coherent.offered f (List.mem_cons_of_mem _ membership)
  running := running

theorem Coherent.push {next : Session} {later : List Session} {f : Frame}
    (coherent : Coherent problem agenda ⟨top :: below, next :: later, progress⟩)
    (session : f.session = top.session) (placed : f.placement.isSome = true)
    (holds : p.Holds (Frame.lessons (f :: below)))
    (offered : ∀ cs ∈ f.remaining, ∀ c ∈ cs, problem.Offers ⟨f.session, c⟩)
    (running : p.stopped = false) :
    Coherent problem agenda ⟨{ session := next } :: f :: below, later, p⟩ where
  agenda_eq := by simpa [session] using coherent.agenda_eq
  placed_below := List.forall_mem_cons.mpr ⟨placed, coherent.placed_below⟩
  holds := holds
  offered := by
    refine List.forall_mem_cons.mpr ⟨by simp, List.forall_mem_cons.mpr ⟨offered, ?_⟩⟩
    intro g membership
    exact coherent.offered g (List.mem_cons_of_mem _ membership)
  running := running

/-- Where the top frame skips candidates up to one that fits, the recursive search descends on that
one and then goes on with the rest. -/
theorem prospect_fitting {skipped rest : List Placement} {c : Placement}
    (coherent : Coherent problem agenda ⟨top :: below, pending, progress⟩)
    (books : p.reservations.Books (Frame.lessons below))
    (left : top.left problem (Frame.lessons below) = skipped ++ c :: rest)
    (blocked : ∀ d ∈ skipped, fits top.session d p.reservations = false)
    (fitting : fits top.session c p.reservations = true) :
    prospect problem ⟨top :: below, pending, progress⟩ =
      ((problem.depthFirst pending (⟨top.session, c⟩ :: Frame.lessons below)).orElse
        ((tryEach (problem.depthFirst pending) (Frame.lessons below) top.session rest).orElse
          (ahead problem below (top.session :: pending)))).after (skipped.length + 1) := by
  have offered := coherent.offered_left
  rw [left, List.forall_mem_append] at offered
  rw [prospect_cons, left, tryEach_fitting books offered.1 blocked fitting, Finding.after_orElse,
    Finding.orElse_assoc]

/-- Where the top frame skips all that it has left, the search goes on with the frames below. -/
theorem prospect_blocked {skipped rest : List Placement}
    (coherent : Coherent problem agenda ⟨top :: below, pending, progress⟩)
    (books : p.reservations.Books (Frame.lessons below))
    (left : top.left problem (Frame.lessons below) = skipped ++ rest)
    (blocked : ∀ d ∈ skipped, fits top.session d p.reservations = false) :
    prospect problem ⟨top :: below, pending, progress⟩ =
      (prospect problem ⟨{ top with remaining := some rest } :: below, pending, p⟩).after
        skipped.length := by
  have offered := coherent.offered_left
  rw [left, List.forall_mem_append] at offered
  rw [prospect_cons, left, tryEach_append rest (clashing_of_blocked books offered.1 blocked),
    Finding.after_orElse]
  rfl

theorem prospect_spent :
    prospect problem ⟨{ top with remaining := some [] } :: below, pending, progress⟩ =
      prospect problem ⟨below, top.session :: pending, p⟩ := by
  change Finding.orElse ⟨none, 0⟩ (ahead problem below (top.session :: pending)) = _
  rw [Finding.nothing_orElse, Finding.after_zero]
  rfl

def settle (below : List Frame) (pending : List Session) :
    Option Placement × Frame × Progress → Outcome
  | (found, f, p) =>
    if p.stopped then .ended .outOfBudget p
    else
      match found, pending with
      | none, _ => .continued ⟨below, f.session :: pending, p⟩
      | some c, [] => .ended .complete (f.place c p).2
      | some c, next :: later =>
        .continued ⟨{ session := next } :: (f.place c p).1 :: below, later, (f.place c p).2⟩

theorem step_stopped (checked : progress.checkBudget budget = (true, p)) :
    step problem budget ⟨top :: below, pending, progress⟩ = .ended .outOfBudget p.stop := by
  simp only [step, checked]

theorem step_settle (checked : progress.checkBudget budget = (false, p)) :
    step problem budget ⟨top :: below, pending, progress⟩ =
      settle below pending ((top.unplace p).1.next problem budget (top.unplace p).2) := by
  cases looked : (top.unplace p).1.next problem budget (top.unplace p).2 with
  | mk found rest =>
    obtain ⟨f, q⟩ := rest
    simp only [step, checked, looked, settle]
    split
    next => rfl
    next => cases found <;> cases pending <;> rfl

/-- An iteration that goes on after the check of the budget, with what the top frame occupied given
back. -/
theorem advance_settle
    (coherent : Coherent problem agenda ⟨top :: below, pending, progress⟩)
    (holds : p.Holds (Frame.lessons below)) (running : p.stopped = false)
    (steps : p.steps = progress.steps) (spare : p.steps < budget.maxSteps) :
    Advance problem budget agenda ⟨top :: below, pending, progress⟩
      (settle below pending (Frame.next problem budget { top with placement := none } p)) := by
  have sought := Progress.sought_seek budget top.session p (top.left problem (Frame.lessons below))
  have goesOn : ¬ p.stopped = true := by simp [running]
  have left : Frame.candidates problem p.reservations { top with placement := none } =
      top.left problem (Frame.lessons below) := Frame.candidates_eq holds.books _
  unfold Frame.next settle
  rw [left]
  generalize drawn : top.left problem (Frame.lessons below) = cs at sought ⊢
  simp only
  generalize p.seek budget top.session cs = result at sought ⊢
  cases sought with
  | fitting skipped rest c readings blocked fitting bound =>
    -- The new frame has nothing drawn yet: its candidates are those of the recursive call.
    have ahead := prospect_fitting coherent holds.books drawn blocked fitting
    have separate := (holds.books.fits_iff.mp fitting).1
    have placed := Frame.holds_place (f := ⟨top.session, some rest, none⟩)
      (p := { p with steps := p.steps + (skipped.length + 1), readings := readings })
      ⟨holds.placed, holds.books, holds.apart⟩ separate
    have bound := Nat.succ_le_of_lt (bound spare)
    simp only [if_neg goesOn]
    cases pending with
    | nil => exact .complete _ _ _ placed running bound (congrArg (· + _) steps) ahead
    | cons next later =>
      refine .continued _ _ ?_ ⟨bound, fun empty => absurd empty (List.cons_ne_nil _ _)⟩
        (congrArg (· + _) steps) ahead
      refine coherent.push rfl rfl placed ?_ running
      rintro _ ⟨⟩ d membership
      have offered := coherent.offered_left d
      rw [drawn] at offered
      exact offered (List.mem_append_right _ (List.mem_cons_of_mem _ membership))
  | exhausted _ readings blocked bound =>
    have ahead :=
      prospect_blocked coherent holds.books (drawn.trans (List.append_nil _).symm) blocked
    rw [prospect_spent] at ahead
    simp only [if_neg goesOn]
    exact .continued _ _ (coherent.drop ⟨holds.placed, holds.books, holds.apart⟩ running)
      ⟨Nat.le_of_lt (bound spare), fun _ => bound spare⟩ (congrArg (· + _) steps) ahead
  | stopped skipped rest readings blocked bound usedUp =>
    have ahead := prospect_blocked coherent holds.books drawn blocked
    simp only [if_true]
    exact .outOfBudget _ _ _ rfl usedUp (bound spare) (congrArg (· + _) steps) ahead ahead_steps_pos

/-- An iteration keeps the invariant and takes from the prospect the steps that it counts. -/
theorem advance_step {s : Position} (coherent : s.Coherent problem agenda)
    (within : s.Within budget) : Advance problem budget agenda s (s.step problem budget) := by
  obtain ⟨frames, pending, progress⟩ := s
  cases frames with
  | nil => exact .exhausted rfl
  | cons top below =>
    cases checked : progress.checkBudget budget with
    | mk spent p =>
      cases spent with
      | true =>
        rw [step_stopped checked]
        obtain ⟨readings, rfl, usedUp⟩ := Progress.checkBudget_true checked
        exact .outOfBudget _ _ 0 rfl usedUp within.1 rfl (Finding.after_zero _).symm ahead_steps_pos
      | false =>
        rw [step_settle checked, Frame.unplace_fst]
        obtain ⟨spare, rfl⟩ := Progress.checkBudget_false checked
        obtain ⟨steps, -, running⟩ :=
          top.progress_unplace { progress with readings := progress.readings + 1 }
        refine advance_settle coherent (Frame.holds_unplace ?_) (running.trans coherent.running)
          steps (lt_of_eq_of_lt steps spare)
        exact ⟨coherent.holds.placed, coherent.holds.books, coherent.holds.apart⟩

end Step

/-- How a run with the given finding ahead can end, from a number of steps on. -/
inductive Concludes (budget : Budget) (ahead : Finding) (before : Nat) :
    Verdict → Progress → Prop where
  | complete (p : Progress) (lessons : List Lesson) (found : ahead.lessons = some lessons)
      (holds : p.Holds lessons) (running : p.stopped = false)
      (within : p.steps ≤ budget.maxSteps) (steps : p.steps = before + ahead.steps) :
      Concludes budget ahead before .complete p
  | exhausted (p : Progress) (nothing : ahead.lessons = none) (holds : p.Holds [])
      (running : p.stopped = false) (within : p.steps < budget.maxSteps)
      (steps : p.steps = before + ahead.steps) :
      Concludes budget ahead before .exhausted p
  | outOfBudget (p : Progress) (stopped : p.stopped = true)
      (usedUp : budget.UsedUp p.steps p.readings) (within : p.steps ≤ budget.maxSteps)
      (steps : p.steps ≤ before + ahead.steps)
      (more : ahead.lessons.isSome = true → p.steps < before + ahead.steps) :
      Concludes budget ahead before .outOfBudget p

theorem Concludes.after {budget : Budget} {rest : Finding} {before tried : Nat}
    {verdict : Verdict} {p : Progress}
    (concludes : Concludes budget rest (before + tried) verdict p) :
    Concludes budget (rest.after tried) before verdict p := by
  cases concludes with
  | complete p lessons found holds running within steps =>
    exact .complete p lessons found holds running within (by simp [steps, Nat.add_assoc])
  | exhausted p nothing holds running within steps =>
    exact .exhausted p nothing holds running within (by simp [steps, Nat.add_assoc])
  | outOfBudget p stopped usedUp within steps more =>
    refine .outOfBudget p stopped usedUp within ?_ ?_
    · rw [Finding.steps_after]
      omega
    · intro found
      have more := more found
      rw [Finding.steps_after]
      omega

/-- A run ends as the recursive search does, unless its budget stops it before. -/
theorem concludes_run {problem : Problem} {budget : Budget} {agenda : List Session} {s : Position}
    (coherent : s.Coherent problem agenda) (within : s.Within budget) :
    Concludes budget (s.prospect problem) s.progress.steps (run problem budget s).1
      (run problem budget s).2 := by
  -- The induction is on the iterations: each takes from the prospect the steps that it counts.
  fun_induction run problem budget s with
  | case1 s verdict p ended =>
    have advance := advance_step coherent within
    rw [ended] at advance
    cases advance with
    | complete _ lessons tried holds running within steps prospect =>
      rw [prospect]
      exact .complete p lessons rfl holds running within steps
    | exhausted empty =>
      have nothing : s.prospect problem = ⟨none, 0⟩ := by rw [prospect, empty, ahead]
      have holds := coherent.holds
      rw [empty] at holds
      rw [nothing]
      exact .exhausted _ rfl holds coherent.running (within.2 empty) rfl
    | outOfBudget _ rest tried stopped usedUp within steps prospect more =>
      rw [prospect]
      apply Concludes.after
      refine .outOfBudget p stopped usedUp within (by omega) ?_
      intro found
      have more := more found
      omega
  | case2 s t continued ih =>
    have advance := advance_step coherent within
    rw [continued] at advance
    cases advance with
    | continued _ tried coherent within steps prospect =>
      rw [prospect]
      have later := ih coherent within
      rw [steps] at later
      exact later.after

section Initial

variable (problem : Problem) (first : Session) (later : List Session)

theorem coherent_initial :
    Coherent problem (first :: later) ⟨[{ session := first }], later, {}⟩ where
  agenda_eq := rfl
  placed_below := by simp
  holds := Progress.holds_empty
  offered := by simp
  running := rfl

theorem prospect_initial :
    prospect problem ⟨[{ session := first }], later, {}⟩ =
      problem.depthFirst (first :: later) [] := by
  change Finding.orElse (problem.depthFirst (first :: later) []) ⟨none, 0⟩ = _
  cases found : problem.depthFirst (first :: later) [] with
  | mk lessons steps => cases lessons <;> rfl

end Initial

end Position

end Timetabling
