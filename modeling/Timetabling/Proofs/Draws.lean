import Mathlib.Data.List.GetD
import Mathlib.Data.List.Nodup
import Mathlib.Data.List.Perm.Basic
import Mathlib.Data.List.Perm.Subperm
import Timetabling.Search.Tournament

/-!
# Draws stay in range

Whatever words a source gives, a choice is one of the items, a sample has the requested number of
positions, all different and below the size, and a tournament among some individuals has a winner.
-/

namespace Timetabling

namespace RandomSource

variable {σ : Type} [RandomSource σ]

theorem exists_choice?_eq_some {α : Type} {items : List α} (someItem : items ≠ []) (s : σ) :
    ∃ item ∈ items, (choice? items s).1 = some item := by
  have bound := below_lt (List.length_pos_iff.mpr someItem) s
  refine ⟨items[(below items.length s).1], List.getElem_mem bound, ?_⟩
  cases items with
  | nil => exact absurd rfl someItem
  | cons first rest => exact List.getElem?_eq_getElem bound

/-- A draw from a pool takes one position out of it. -/
theorem perm_drawn_cons_pool {pool : List Nat} {last j : Nat} (hasLast : pool.getLast? = some last)
    (bound : j < pool.length) :
    (pool.getD j last :: (pool.set j last).dropLast).Perm pool := by
  obtain ⟨init, rfl⟩ := List.getLast?_eq_some_iff.mp hasLast
  rw [List.getD_eq_getElem _ _ bound]
  rcases Nat.lt_or_ge j init.length with early | late
  · rw [List.getElem_append_left early, List.set_append_left _ _ early, List.dropLast_concat]
    calc
      (init[j] :: init.set j last).Perm (init[j] :: last :: init.eraseIdx j) :=
        (List.set_perm_cons_eraseIdx early last).cons _
      _ |>.Perm (last :: init[j] :: init.eraseIdx j) := .swap ..
      _ |>.Perm (last :: init) := (List.getElem_cons_eraseIdx_perm early).cons _
      _ |>.Perm (init ++ [last]) := (List.perm_append_singleton last init).symm
  · rw [List.length_append, List.length_singleton] at bound
    obtain rfl : j = init.length := by omega
    rw [List.getElem_concat_length rfl, List.set_append_right _ _ late, Nat.sub_self,
      List.set_cons_zero, List.dropLast_concat]
    exact (List.perm_append_singleton last init).symm

theorem mem_samplePool {count i : Nat} {pool : List Nat} {s : σ}
    (drawn : i ∈ (samplePool count pool s).1) : i ∈ pool := by
  induction count generalizing pool s with
  | zero => simp [samplePool] at drawn
  | succ count ih =>
    unfold samplePool at drawn
    split at drawn
    next => simp at drawn
    next last hasLast =>
      have bound := below_lt (List.length_pos_of_mem (List.mem_of_getLast? hasLast)) s
      apply (perm_drawn_cons_pool hasLast bound).mem_iff.mp
      rcases List.mem_cons.mp drawn with here | later
      · rw [here]
        exact List.mem_cons_self
      · exact List.mem_cons_of_mem _ (ih later)

theorem length_samplePool {count : Nat} {pool : List Nat} {s : σ} (enough : count ≤ pool.length) :
    (samplePool count pool s).1.length = count := by
  induction count generalizing pool s with
  | zero => rfl
  | succ count ih =>
    unfold samplePool
    split
    next noLast =>
      rw [List.getLast?_eq_none_iff.mp noLast] at enough
      simp at enough
    next last hasLast =>
      rw [List.length_cons, ih]
      rw [List.length_dropLast, List.length_set]
      omega

theorem nodup_samplePool {count : Nat} {pool : List Nat} {s : σ} (nodup : pool.Nodup) :
    (samplePool count pool s).1.Nodup := by
  induction count generalizing pool s with
  | zero => exact List.nodup_nil
  | succ count ih =>
    unfold samplePool
    split
    next => exact List.nodup_nil
    next last hasLast =>
      have bound := below_lt (List.length_pos_of_mem (List.mem_of_getLast? hasLast)) s
      have parted := (perm_drawn_cons_pool hasLast bound).nodup_iff.mpr nodup
      obtain ⟨taken, rest⟩ := List.nodup_cons.mp parted
      refine List.nodup_cons.mpr ⟨?_, ih rest⟩
      intro again
      exact taken (mem_samplePool again)

theorem untakenWithin_lt {size tries : Nat} {taken : List Nat} {s : σ} (positive : 0 < size) :
    (untakenWithin size taken tries s).1 < size := by
  induction tries generalizing s with
  | zero =>
    change ((List.range size).find? fun i => !taken.contains i).getD 0 < size
    cases found : (List.range size).find? fun i => !taken.contains i with
    | none => exact positive
    | some i => exact List.mem_range.mp (List.mem_of_find?_eq_some found)
  | succ tries ih =>
    unfold untakenWithin
    by_cases isTaken : taken.contains (below size s).1 = true
    · simp only [isTaken, if_true]
      exact ih
    · simp only [isTaken, Bool.false_eq_true, if_false]
      exact below_lt positive s

theorem untakenWithin_notMem {size tries : Nat} {taken : List Nat} {s : σ}
    (few : taken.length < size) : (untakenWithin size taken tries s).1 ∉ taken := by
  induction tries generalizing s with
  | zero =>
    change ((List.range size).find? fun i => !taken.contains i).getD 0 ∉ taken
    cases found : (List.range size).find? fun i => !taken.contains i with
    | some i => simpa using List.find?_some found
    | none =>
      have all : List.range size ⊆ taken := by
        intro i listed
        simpa using List.find?_eq_none.mp found i listed
      have many := (List.nodup_range.subperm all).length_le
      rw [List.length_range] at many
      omega
  | succ tries ih =>
    unfold untakenWithin
    by_cases isTaken : taken.contains (below size s).1 = true
    · simp only [isTaken, if_true]
      exact ih
    · simp only [isTaken, Bool.false_eq_true, if_false]
      simpa using isTaken

theorem sampleUntaken_lt {size count i : Nat} {taken : List Nat} {s : σ} (positive : 0 < size)
    (drawn : i ∈ (sampleUntaken size count taken s).1) : i < size := by
  induction count generalizing taken s with
  | zero => simp [sampleUntaken] at drawn
  | succ count ih =>
    unfold sampleUntaken at drawn
    rcases List.mem_cons.mp drawn with here | later
    · rw [here]
      exact untakenWithin_lt positive
    · exact ih later

theorem length_sampleUntaken {size count : Nat} {taken : List Nat} {s : σ} :
    (sampleUntaken size count taken s).1.length = count := by
  induction count generalizing taken s with
  | zero => rfl
  | succ count ih => exact congrArg Nat.succ ih

theorem nodup_sampleUntaken {size count : Nat} {taken : List Nat} {s : σ}
    (enough : taken.length + count ≤ size) :
    (sampleUntaken size count taken s).1.Nodup ∧
      ∀ i ∈ (sampleUntaken size count taken s).1, i ∉ taken := by
  induction count generalizing taken s with
  | zero => exact ⟨List.nodup_nil, List.forall_mem_nil _⟩
  | succ count ih =>
    have fresh : (untakenWithin size taken rejections s).1 ∉ taken := by
      apply untakenWithin_notMem
      omega
    unfold sampleUntaken
    generalize untakenWithin size taken rejections s = drawn at fresh ⊢
    obtain ⟨j, s₁⟩ := drawn
    have enoughLater : (j :: taken).length + count ≤ size := by
      rw [List.length_cons]
      omega
    obtain ⟨nodup, later⟩ := ih (s := s₁) enoughLater
    refine ⟨List.nodup_cons.mpr ⟨?_, nodup⟩, List.forall_mem_cons.mpr ⟨fresh, ?_⟩⟩
    · intro again
      exact later j again List.mem_cons_self
    · intro i drawn isTaken
      exact later i drawn (List.mem_cons_of_mem _ isTaken)

theorem sample_lt {size count i : Nat} {s : σ} (drawn : i ∈ (sample size count s).1) :
    i < size := by
  unfold sample at drawn
  split at drawn
  next => exact List.mem_range.mp (mem_samplePool drawn)
  next large => exact sampleUntaken_lt (by omega) drawn

theorem length_sample {size count : Nat} {s : σ} (enough : count ≤ size) :
    (sample size count s).1.length = count := by
  unfold sample
  split
  next => exact length_samplePool (by simpa using enough)
  next => exact length_sampleUntaken

theorem nodup_sample {size count : Nat} {s : σ} (enough : count ≤ size) :
    (sample size count s).1.Nodup := by
  unfold sample
  split
  next => exact nodup_samplePool List.nodup_range
  next =>
    apply (nodup_sampleUntaken _).1
    simpa using enough

end RandomSource

namespace Tournament

variable {α σ : Type} [RandomSource σ] {beats : α → α → Bool} {items : List α} {size i : Nat}

/-- A tournament does not see a change of the contenders that no comparison sees. -/
theorem best_map {β : Type} {beats' : β → β → Bool} {f : α → β}
    (same : ∀ a b, beats' (f a) (f b) = beats a b) (champion : α) (contenders : List α) :
    best beats' (f champion) (contenders.map f) = f (best beats champion contenders) := by
  induction contenders generalizing champion with
  | nil => rfl
  | cons contender rest ih =>
    rw [List.map_cons, best, best, same, ← ih]
    congr 1
    split <;> rfl

theorem lt_of_winner?_eq_some {s : σ} (won : (winner? beats items size s).1 = some i) :
    i < items.length := by
  unfold winner? at won
  simp only at won
  split at won
  next => cases won
  next first rest contenders =>
    cases won
    have membership := best_mem (fun a b => beats a.2 b.2) first rest
    rw [← contenders] at membership
    obtain ⟨j, -, contender⟩ := List.mem_filterMap.mp membership
    obtain ⟨item, found, same⟩ := Option.map_eq_some_iff.mp contender
    rw [← same]
    exact (List.getElem?_eq_some_iff.mp found).1

theorem exists_winner?_eq_some (someItem : items ≠ []) (positive : 0 < size) (s : σ) :
    ∃ i, (winner? beats items size s).1 = some i := by
  have total := List.length_pos_iff.mpr someItem
  have length := RandomSource.length_sample (s := s) (Nat.min_le_right size items.length)
  unfold winner?
  simp only
  split
  next nobody =>
    cases drawn : (RandomSource.sample items.length (min size items.length) s).1 with
    | nil =>
      rw [drawn, List.length_nil] at length
      omega
    | cons j rest =>
      have here : j ∈ (RandomSource.sample items.length (min size items.length) s).1 := by
        rw [drawn]
        exact List.mem_cons_self
      have missing := List.filterMap_eq_nil_iff.mp nobody j here
      rw [List.getElem?_eq_getElem (RandomSource.sample_lt here)] at missing
      cases missing
  next => exact ⟨_, rfl⟩

end Tournament

end Timetabling
