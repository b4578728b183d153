import Timetabling.Proofs.Occupancy
import Timetabling.Proofs.Population
import Timetabling.Proofs.Acceptance
import Timetabling.Proofs.Quotients

/-!
# What an evaluation says about a genome

An evaluation replays the genes on reservations of its own. It has a value on every admissible
genome of an accepted problem, and a feasible one belongs to a genome whose lessons are a schedule.
A cache returns what the evaluation itself would.
-/

namespace Timetabling

namespace Genome

/-- The lessons of the genes that are placements, in the order of the genes. -/
def lessons (loci : List Locus) (genome : Genome) : List Lesson :=
  (loci.zip genome).filterMap fun (l, gene) => gene.map (Lesson.mk l.session)

theorem lessons_cons_none (l : Locus) (loci : List Locus) (genome : Genome) :
    lessons (l :: loci) (none :: genome) = genome.lessons loci := rfl

theorem lessons_cons_some (l : Locus) (loci : List Locus) (c : Placement) (genome : Genome) :
    lessons (l :: loci) (some c :: genome) = ⟨l.session, c⟩ :: genome.lessons loci := rfl

theorem decode_eq (p : Problem) (genome : Genome) :
    genome.decode p.sections = (genome.lessons p.loci).map Lesson.assignment := by
  rw [decode, lessons, Problem.loci, List.zip_map_left, List.filterMap_map, List.map_filterMap]
  congr 1
  funext ⟨sec, gene⟩
  cases gene <;> rfl

end Genome

namespace Lesson

structure Positive (l : Lesson) : Prop where
  session : 0 < l.session.capacity
  classroom : 0 < l.placement.classroom.capacity

/-- Whether a session is so much larger than its classroom that their quotient is too large. -/
def Overfull (l : Lesson) : Prop :=
  l.placement.classroom.capacity * Binary64.overflow ≤ l.session.capacity

theorem Positive.overfull_iff {l : Lesson} (positive : l.Positive) :
    l.Overfull ↔
      l.placement.classroom.capacity.natAbs * Binary64.overflow ≤ l.session.capacity.natAbs := by
  obtain ⟨session, classroom⟩ := positive
  unfold Overfull
  rw [← Int.ofNat_le, Int.natCast_mul, Int.natAbs_of_nonneg session.le,
    Int.natAbs_of_nonneg classroom.le]

theorem Positive.exists_quotient {l : Lesson} (positive : l.Positive) (moderate : ¬ l.Overfull) :
    ∃ ratio, quotient l.session.capacity l.placement.classroom.capacity = .ok ratio :=
  exists_quotient_eq_ok positive.classroom
    (Nat.lt_of_not_le fun large => moderate (positive.overfull_iff.mpr large))

theorem Positive.quotient_of_overfull {l : Lesson} (positive : l.Positive)
    (overfull : l.Overfull) :
    quotient l.session.capacity l.placement.classroom.capacity = .error .tooLarge :=
  quotient_eq_tooLarge positive.classroom (positive.overfull_iff.mp overfull)

/-- A session that fits its classroom does not overfill it. -/
theorem Positive.not_overfull {l : Lesson} (positive : l.Positive)
    (capacity : l.session.capacity ≤ l.placement.classroom.capacity) : ¬ l.Overfull := by
  have room := positive.classroom
  have more : l.placement.classroom.capacity * 1 < l.placement.classroom.capacity *
      Binary64.overflow := by
    apply Int.mul_lt_mul_of_pos_left _ room
    decide +kernel
  unfold Overfull
  omega

end Lesson

namespace Evaluation

theorem feasible_iff {e : Evaluation} :
    e.feasible = true ↔ e.violations = 0 ∧ e.unassigned = 0 := by
  simp [feasible]

theorem feasible_add {a b : Evaluation} :
    (a.add b).feasible = true ↔ a.feasible = true ∧ b.feasible = true := by
  simp only [feasible_iff, add, Nat.add_eq_zero_iff]
  constructor
  · rintro ⟨⟨ofFirst, ofSecond⟩, first, second⟩
    exact ⟨⟨ofFirst, first⟩, ofSecond, second⟩
  · rintro ⟨⟨ofFirst, first⟩, ofSecond, second⟩
    exact ⟨⟨ofFirst, ofSecond⟩, first, second⟩

end Evaluation

namespace Locus

variable {l : Locus} {gene : Option Placement} {r : Reservations}

/-- A gene that earns a feasible score is a placement that fits. -/
theorem fits_of_feasible {e : Evaluation} (scored : l.score gene r = .ok e)
    (feasible : e.feasible = true) : ∃ c, gene = some c ∧ fits l.session c r = true := by
  cases gene with
  | none =>
    cases scored
    cases feasible
  | some c =>
    refine ⟨c, rfl, ?_⟩
    cases divided : quotient l.session.capacity c.classroom.capacity with
    | error fault =>
      simp [score, divided, bind, Except.bind] at scored
    | ok ratio =>
      simp only [score, divided, bind, Except.bind, pure, Except.pure, Except.ok.injEq] at scored
      rw [Evaluation.feasible_iff, ← scored] at feasible
      unfold fits
      cases found : conflict? l.session c r with
      | none => rfl
      | some conflict => simp [found] at feasible

theorem exists_score_eq_ok (positive : ∀ c, gene = some c → (⟨l.session, c⟩ : Lesson).Positive)
    (moderate : ∀ c, gene = some c → ¬ (⟨l.session, c⟩ : Lesson).Overfull) :
    ∃ e, l.score gene r = .ok e := by
  cases gene with
  | none => exact ⟨_, rfl⟩
  | some c =>
    obtain ⟨ratio, divided⟩ := (positive c rfl).exists_quotient (moderate c rfl)
    simp only [score, divided, bind, Except.bind, pure, Except.pure]
    exact ⟨_, rfl⟩

theorem score_of_overfull {c : Placement} (positive : (⟨l.session, c⟩ : Lesson).Positive)
    (overfull : (⟨l.session, c⟩ : Lesson).Overfull) :
    l.score (some c) r = .error .tooLarge := by
  have divided := positive.quotient_of_overfull overfull
  simp only [score, divided, bind, Except.bind]

end Locus

namespace Genome

theorem evaluateFrom_cons {l : Locus} {loci : List Locus} {gene : Option Placement}
    {genome : Genome} {r : Reservations} {e : Evaluation} :
    evaluateFrom (l :: loci) (gene :: genome) r = .ok e ↔
      ∃ head tail, l.score gene r = .ok head ∧
        evaluateFrom loci genome (l.reserve gene r) = .ok tail ∧ e = head.add tail := by
  rw [evaluateFrom]
  cases l.score gene r with
  | error fault => simp [bind, Except.bind]
  | ok head =>
    cases evaluateFrom loci genome (l.reserve gene r) with
    | error fault => simp [bind, Except.bind]
    | ok tail => simp [bind, Except.bind, pure, Except.pure, eq_comm]

/-- A feasible genome places every session, and no lesson clashes with another or with one that was
there before. -/
theorem lessons_of_feasible {loci : List Locus} {genome : Genome} {r : Reservations}
    {earlier : List Lesson} {e : Evaluation} (books : r.Books earlier)
    (complete : genome.length = loci.length) (evaluated : evaluateFrom loci genome r = .ok e)
    (feasible : e.feasible = true) :
    (genome.lessons loci).map Lesson.session = loci.map Locus.session ∧
      (Lesson.Apart earlier → Lesson.Apart ((genome.lessons loci).reverse ++ earlier)) := by
  -- The reservations stand for the lessons before, so a gene that fits is a lesson without a clash.
  induction loci generalizing genome r earlier e with
  | nil => exact ⟨rfl, id⟩
  | cons l loci ih =>
    cases genome with
    | nil => cases complete
    | cons gene genome =>
      obtain ⟨head, tail, scored, replayed, rfl⟩ := evaluateFrom_cons.mp evaluated
      obtain ⟨first, rest⟩ := Evaluation.feasible_add.mp feasible
      obtain ⟨c, rfl, fitting⟩ := l.fits_of_feasible scored first
      have separate := (books.fits_iff.mp fitting).1
      obtain ⟨sessions, apart⟩ :=
        ih (books.place l.session c) (Nat.succ.inj complete) replayed rest
      rw [lessons_cons_some]
      constructor
      · rw [List.map_cons, sessions, List.map_cons]
      · intro earlierApart
        rw [List.reverse_cons, List.append_assoc]
        exact apart (Lesson.apart_cons.mpr ⟨separate, earlierApart⟩)

theorem Admissible.mem_lessons {slots : List TimeSlot} {loci : List Locus} {genome : Genome}
    (admissible : genome.Admissible slots loci) {lesson : Lesson}
    (membership : lesson ∈ genome.lessons loci) :
    ∃ l ∈ loci, l.session = lesson.session ∧ lesson.placement.classroom ∈ l.rooms ∧
      lesson.placement.slot ∈ slots := by
  induction admissible with
  | nil => cases membership
  | @cons l gene loci genome admits _ ih =>
    cases gene with
    | none =>
      rw [lessons_cons_none] at membership
      obtain ⟨other, located, rest⟩ := ih membership
      exact ⟨other, List.mem_cons_of_mem _ located, rest⟩
    | some c =>
      rw [lessons_cons_some] at membership
      rcases List.mem_cons.mp membership with rfl | later
      · exact ⟨l, List.mem_cons_self, rfl, admits c rfl⟩
      · obtain ⟨other, located, rest⟩ := ih later
        exact ⟨other, List.mem_cons_of_mem _ located, rest⟩

theorem exists_evaluateFrom {loci : List Locus} {genome : Genome}
    (positive : ∀ lesson ∈ genome.lessons loci, lesson.Positive)
    (moderate : ∀ lesson ∈ genome.lessons loci, ¬ lesson.Overfull) (r : Reservations) :
    ∃ e, evaluateFrom loci genome r = .ok e := by
  induction loci generalizing genome r with
  | nil => exact ⟨_, rfl⟩
  | cons l loci ih =>
    cases genome with
    | nil => exact ⟨_, rfl⟩
    | cons gene genome =>
      have here : ∀ c, gene = some c → ⟨l.session, c⟩ ∈ lessons (l :: loci) (gene :: genome) := by
        rintro c rfl
        exact List.mem_cons_self
      have later : ∀ lesson ∈ lessons loci genome,
          lesson ∈ lessons (l :: loci) (gene :: genome) := by
        intro lesson membership
        cases gene with
        | none => exact membership
        | some c => exact List.mem_cons_of_mem _ membership
      obtain ⟨head, scored⟩ : ∃ e, l.score gene r = .ok e :=
        Locus.exists_score_eq_ok (fun c same => positive _ (here c same))
          fun c same => moderate _ (here c same)
      obtain ⟨tail, replayed⟩ := ih (fun _ membership => positive _ (later _ membership))
        (fun _ membership => moderate _ (later _ membership)) (l.reserve gene r)
      exact ⟨head.add tail, evaluateFrom_cons.mpr ⟨head, tail, scored, replayed, rfl⟩⟩

theorem evaluateFrom_of_overfull {loci : List Locus} {genome : Genome}
    (positive : ∀ lesson ∈ genome.lessons loci, lesson.Positive)
    (overfull : ∃ lesson ∈ genome.lessons loci, lesson.Overfull) (r : Reservations) :
    evaluateFrom loci genome r = .error .tooLarge := by
  induction loci generalizing genome r with
  | nil => simp [lessons] at overfull
  | cons l loci ih =>
    cases genome with
    | nil => simp [lessons] at overfull
    | cons gene genome =>
      cases gene with
      | none =>
        rw [lessons_cons_none] at positive overfull
        rw [evaluateFrom, ih positive overfull]
        rfl
      | some c =>
        rw [lessons_cons_some] at positive overfull
        rw [List.exists_mem_cons_iff] at overfull
        obtain ⟨first, positive⟩ := List.forall_mem_cons.mp positive
        by_cases here : (⟨l.session, c⟩ : Lesson).Overfull
        · rw [evaluateFrom, Locus.score_of_overfull first here]
          rfl
        · rw [evaluateFrom, ih positive (overfull.resolve_left here)]
          obtain ⟨head, scored⟩ : ∃ e, l.score (some c) r = .ok e :=
            Locus.exists_score_eq_ok (fun _ same => Option.some.inj same ▸ first)
              fun _ same => Option.some.inj same ▸ here
          rw [scored]
          rfl

end Genome

namespace Problem

variable {p : Problem} {genome : Genome}

theorem mem_rooms_locus {sec : Section} {room : Classroom} :
    room ∈ (p.locus sec).rooms ↔ room ∈ p.classrooms ∧ sec.capacity ≤ room.capacity := by
  simp [locus, eligibleClassrooms]

theorem offers_iff {sec : Section} {c : Placement} :
    p.Offers ⟨p.session sec, c⟩ ↔ c.classroom ∈ (p.locus sec).rooms ∧ c.slot ∈ p.slots := by
  rw [mem_rooms_locus]
  constructor
  · intro offers
    exact ⟨⟨offers.classroom_mem, offers.capacity_le⟩, offers.slot_mem⟩
  · rintro ⟨⟨known, large⟩, offered⟩
    exact ⟨known, offered, large⟩

theorem offers_of_mem_lessons (admissible : genome.Admissible p.slots p.loci) {lesson : Lesson}
    (membership : lesson ∈ genome.lessons p.loci) : p.Offers lesson := by
  obtain ⟨l, located, same, admits⟩ := admissible.mem_lessons membership
  obtain ⟨sec, -, rfl⟩ := List.mem_map.mp located
  obtain ⟨session, placement⟩ := lesson
  obtain rfl : p.session sec = session := same
  exact offers_iff.mpr admits

/-- In an accepted problem no admissible genome fails to be evaluated. -/
theorem Accepted.exists_evaluate (accepted : p.Accepted)
    (admissible : genome.Admissible p.slots p.loci) : ∃ e, genome.evaluate p.loci = .ok e := by
  have positive : ∀ lesson ∈ genome.lessons p.loci, lesson.Positive := by
    intro lesson membership
    obtain ⟨l, located, same, -⟩ := admissible.mem_lessons membership
    obtain ⟨sec, known, rfl⟩ := List.mem_map.mp located
    have offers := offers_of_mem_lessons admissible membership
    refine ⟨?_, accepted.classroom_capacity_pos _ offers.classroom_mem⟩
    rw [← same]
    exact accepted.section_capacity_pos sec known
  apply Genome.exists_evaluateFrom positive
  intro lesson membership
  exact (positive lesson membership).not_overfull
    (offers_of_mem_lessons admissible membership).capacity_le

theorem isSchedule_lessons {e : Evaluation} (admissible : genome.Admissible p.slots p.loci)
    (evaluated : genome.evaluate p.loci = .ok e) (feasible : e.feasible = true) :
    p.IsSchedule (genome.lessons p.loci) := by
  have replayed := Genome.lessons_of_feasible Reservations.books_empty admissible.length_eq.symm
    evaluated feasible
  obtain ⟨sessions, apart⟩ := replayed
  constructor
  · rw [sessions, loci, List.map_map]
    exact List.Perm.refl _
  · intro lesson membership
    exact offers_of_mem_lessons admissible membership
  · have listed := apart List.Pairwise.nil
    rw [List.append_nil] at listed
    exact listed.perm (List.reverse_perm _)

end Problem

namespace EvaluationCache

/-- The cache knows nothing but evaluations for the given loci. -/
def Sound (loci : List Locus) (cache : EvaluationCache) : Prop :=
  ∀ (genome : Genome) e, cache.known[genome]? = some e → genome.evaluate loci = .ok e

variable {loci : List Locus} {cache : EvaluationCache}

theorem sound_empty : Sound loci {} := by
  intro genome e known
  simp at known

theorem Sound.evaluate_fst (sound : cache.Sound loci) (genome : Genome) :
    (cache.evaluate loci genome).1 = genome.evaluate loci := by
  unfold EvaluationCache.evaluate
  split
  next e known => exact (sound genome e known).symm
  next =>
    split
    next e evaluated => exact evaluated.symm
    next fault failed => exact failed.symm

theorem Sound.evaluate_snd (sound : cache.Sound loci) (genome : Genome) :
    (cache.evaluate loci genome).2.Sound loci := by
  unfold EvaluationCache.evaluate
  split
  next => exact sound
  next =>
    split
    next e evaluated =>
      intro other e' known
      by_cases same : genome = other
      · subst same
        simp only [Std.TreeMap.getElem?_insert_self, Option.some.injEq] at known
        rw [← known]
        exact evaluated
      · have different : compare genome other ≠ .eq :=
          fun equal => same (Std.LawfulEqOrd.eq_of_compare equal)
        rw [Std.TreeMap.getElem?_insert, if_neg different] at known
        exact sound other e' known
    next => exact sound

def after (loci : List Locus) (genomes : List Genome) : EvaluationCache :=
  genomes.foldl (fun cache genome => (cache.evaluate loci genome).2) {}

theorem sound_after (genomes : List Genome) : (after loci genomes).Sound loci :=
  List.foldlRecOn _ _ sound_empty fun _ sound genome _ => sound.evaluate_snd genome

end EvaluationCache

end Timetabling
