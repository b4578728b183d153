import Timetabling.Random.Source

/-!
# Tournaments

A tournament draws distinct contenders and picks the best of them, the one drawn first where several
are equally good.
-/

namespace Timetabling.Tournament

/-- The best of a champion and further contenders. A contender has to beat the champion to replace
it. -/
def best {α : Type} (beats : α → α → Bool) : α → List α → α
  | champion, [] => champion
  | champion, contender :: rest =>
    best beats (if beats contender champion then contender else champion) rest

theorem best_mem {α : Type} (beats : α → α → Bool) (champion : α) (contenders : List α) :
    best beats champion contenders ∈ champion :: contenders := by
  induction contenders generalizing champion with
  | nil => simp [best]
  | cons contender rest ih =>
    rw [best]
    have h := ih (if beats contender champion then contender else champion)
    by_cases hb : beats contender champion = true
    · rw [if_pos hb] at h ⊢
      exact List.mem_cons_of_mem _ h
    · rw [if_neg hb] at h ⊢
      rcases List.mem_cons.mp h with h | h
      · rw [h]
        exact List.mem_cons_self
      · exact List.mem_cons_of_mem _ (List.mem_cons_of_mem _ h)

variable {α σ : Type} [RandomSource σ]

/-- The position of the winner of a tournament among some of the items. Nobody wins where there are
no items. -/
def winner? (beats : α → α → Bool) (items : List α) (size : Nat) (s : σ) : Option Nat × σ :=
  let (drawn, s') := RandomSource.sample items.length (min size items.length) s
  let contenders := drawn.filterMap fun i => items[i]?.map fun item => (i, item)
  match contenders with
  | [] => (none, s')
  | first :: rest => (some (best (fun a b => beats a.2 b.2) first rest).1, s')

end Timetabling.Tournament
