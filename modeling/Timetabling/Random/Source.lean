import Timetabling.Number.Binary64

/-!
# Random draws

Draws from a source of random 32-bit words. Everything here holds for any source: a number below a
bound is drawn by rejecting words that are too large, a sample consists of distinct positions. The
number of rejections is bounded, far beyond what a random source needs, and past the bound a draw
falls back to a value in range.
-/

namespace Timetabling

class RandomSource (σ : Type) where
  next : σ → UInt32 × σ

namespace RandomSource

variable {σ : Type} [RandomSource σ]

def word (s : σ) : Nat × σ :=
  let (w, s') := next s
  (w.toNat, s')

/-- The leading bits of a word, at most 32. -/
def bits (count : Nat) (s : σ) : Nat × σ :=
  let (w, s') := word s
  (w >>> (32 - count), s')

/-- The greatest number of words that one draw rejects. -/
def rejections : Nat := 1000

def belowWithin (bound count : Nat) : Nat → σ → Nat × σ
  | 0, s => (0, s)
  | tries + 1, s =>
    let (n, s') := bits count s
    if n < bound then (n, s') else belowWithin bound count tries s'

def below (bound : Nat) (s : σ) : Nat × σ :=
  belowWithin bound (bound.log2 + 1) rejections s

theorem belowWithin_lt {bound count tries : Nat} (h : 0 < bound) (s : σ) :
    (belowWithin bound count tries s).1 < bound := by
  induction tries generalizing s with
  | zero => exact h
  | succ tries ih =>
    rw [belowWithin]
    split
    next n s' hn =>
      split
      next hlt => exact hlt
      next => exact ih s'

theorem below_lt {bound : Nat} (h : 0 < bound) (s : σ) : (below bound s).1 < bound :=
  belowWithin_lt h s

/-- A number of the unit interval, one excluded, with 53 random bits. -/
def unit (s : σ) : Binary64 × σ :=
  let (a, s₁) := word s
  let (b, s₂) := word s₁
  (.ofRatio false ((a >>> 5) * 67108864 + (b >>> 6)) 9007199254740992, s₂)

def choice? {α : Type} (items : List α) (s : σ) : Option α × σ :=
  match items with
  | [] => (none, s)
  | _ =>
    let (i, s') := below items.length s
    (items[i]?, s')

/-- Draws from a pool of positions. A drawn position is replaced by the last one of the pool. -/
def samplePool : Nat → List Nat → σ → List Nat × σ
  | 0, _, s => ([], s)
  | count + 1, pool, s =>
    match pool.getLast? with
    | none => ([], s)
    | some last =>
      let (j, s₁) := below pool.length s
      let (rest, s₂) := samplePool count ((pool.set j last).dropLast) s₁
      (pool.getD j last :: rest, s₂)

def untakenWithin (size : Nat) (taken : List Nat) : Nat → σ → Nat × σ
  | 0, s => (((List.range size).find? fun i => !taken.contains i).getD 0, s)
  | tries + 1, s =>
    let (j, s') := below size s
    if taken.contains j then untakenWithin size taken tries s' else (j, s')

def sampleUntaken (size : Nat) : Nat → List Nat → σ → List Nat × σ
  | 0, _, s => ([], s)
  | count + 1, taken, s =>
    let (j, s₁) := untakenWithin size taken rejections s
    let (rest, s₂) := sampleUntaken size count (j :: taken) s₁
    (j :: rest, s₂)

def powerOfFour (n : Nat) : Nat → Nat → Nat
  | 0, p => p
  | steps + 1, p => if n ≤ p then p else powerOfFour n steps (4 * p)

/-- Up to this many positions a sample is drawn from a pool of all of them. -/
def poolLimit (count : Nat) : Nat :=
  21 + if 5 < count then powerOfFour (3 * count) count 1 else 0

/-- Distinct positions below a size, in the order of the draws. At most as many are drawn as there
are positions. -/
def sample (size count : Nat) (s : σ) : List Nat × σ :=
  if size ≤ poolLimit count then samplePool count (List.range size) s
  else sampleUntaken size count [] s

end RandomSource

end Timetabling
