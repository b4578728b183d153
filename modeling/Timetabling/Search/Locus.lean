import Timetabling.Random.Source
import Timetabling.Search.Candidates

/-!
# Genomes

A genome has one gene for each section in the given order: a placement, or nothing for a section
that is left out. A locus is what the genetic search knows about one position of a genome. A random
individual reserves what it places, so it never breaks a constraint.
-/

namespace Timetabling

abbrev Genome := List (Option Placement)

/-- A session with the classrooms large enough for it and the slot keys its instructor prefers. -/
structure Locus where
  session : Session
  rooms : List Classroom
  preferred : List String

namespace Problem

def locus (p : Problem) (sec : Section) : Locus where
  session := p.session sec
  rooms := eligibleClassrooms p.classrooms sec
  preferred := p.preferredKeys sec.instructor

def loci (p : Problem) : List Locus :=
  p.sections.map p.locus

end Problem

namespace Locus

def reserve (l : Locus) (gene : Option Placement) (r : Reservations) : Reservations :=
  match gene with
  | none => r
  | some c => r.place l.session c

variable {σ : Type} [RandomSource σ]

/-- An eligible classroom and then a slot, both drawn at random. Nothing is drawn where one of the
two cannot be had. -/
def randomPlacement (slots : List TimeSlot) (l : Locus) (s : σ) : Option Placement × σ :=
  if l.rooms.isEmpty || slots.isEmpty then (none, s)
  else
    let (room?, s₁) := RandomSource.choice? l.rooms s
    let (slot?, s₂) := RandomSource.choice? slots s₁
    (room?.bind fun room => slot?.map fun slot => ⟨room, slot⟩, s₂)

/-- Draws placements until one fits or the attempts are used up. -/
def attempt (slots : List TimeSlot) (l : Locus) (r : Reservations) :
    Nat → σ → Option Placement × σ
  | 0, s => (none, s)
  | attempts + 1, s =>
    match l.randomPlacement slots s with
    | (none, s') => (none, s')
    | (some c, s') => if fits l.session c r then (some c, s') else l.attempt slots r attempts s'

end Locus

namespace Genome

variable {σ : Type} [RandomSource σ]

def randomFrom (slots : List TimeSlot) (attempts : Nat) : List Locus → Reservations → σ → Genome × σ
  | [], _, s => ([], s)
  | l :: ls, r, s =>
    let (gene, s₁) := l.attempt slots r attempts s
    let (genes, s₂) := randomFrom slots attempts ls (l.reserve gene r) s₁
    (gene :: genes, s₂)

def random (slots : List TimeSlot) (attempts : Nat) (loci : List Locus) (s : σ) : Genome × σ :=
  randomFrom slots attempts loci {} s

def randomPopulation (slots : List TimeSlot) (attempts : Nat) (loci : List Locus) :
    Nat → σ → List Genome × σ
  | 0, s => ([], s)
  | size + 1, s =>
    let (first, s₁) := random slots attempts loci s
    let (rest, s₂) := randomPopulation slots attempts loci size s₁
    (first :: rest, s₂)

/-- The assignments of the genes that are placements; a genome may be shorter than the sections. -/
def decode (sections : List Section) (genome : Genome) : List Assignment :=
  (sections.zip genome).filterMap fun (sec, gene) => gene.map (Assignment.place sec)

end Genome

end Timetabling
