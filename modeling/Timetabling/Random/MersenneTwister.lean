import Timetabling.Random.Source

/-!
# The Mersenne Twister

The 32-bit Mersenne Twister with a period of 2^19937 - 1, started from the words of a seed.
-/

namespace Timetabling

/-- A block of state words and the number of them already given out. -/
structure MersenneTwister where
  words : Array UInt32
  used : Nat

namespace MersenneTwister

def size : Nat := 624

def fromWord (seed : UInt32) : Array UInt32 :=
  ((List.range (size - 1)).foldl
    (fun (words, last) i =>
      let w := (last ^^^ (last >>> 30)) * (1812433253 : UInt32) + UInt32.ofNat (i + 1)
      (words.push w, w))
    (#[seed], seed)).1

/-- How far a pass over the state words has come: the words, the next position of them, and the next
position of the seed. -/
structure Pass where
  words : Array UInt32
  i : Nat
  j : Nat

/-- The position after the last one is the second, and the first word is then a copy of the last. -/
def Pass.advance (p : Pass) : Pass :=
  if p.i + 1 < size then { p with i := p.i + 1 }
  else { p with words := p.words.setIfInBounds 0 (p.words.getD (size - 1) 0), i := 1 }

def Pass.absorb (seed : Array UInt32) (p : Pass) : Pass :=
  let before := p.words.getD (p.i - 1) 0
  let w := (p.words.getD p.i 0 ^^^ ((before ^^^ (before >>> 30)) * (1664525 : UInt32))) +
    seed.getD p.j 0 + UInt32.ofNat p.j
  let q := { p with words := p.words.setIfInBounds p.i w }.advance
  { q with j := if p.j + 1 < seed.size then p.j + 1 else 0 }

def Pass.settle (p : Pass) : Pass :=
  let before := p.words.getD (p.i - 1) 0
  let w := (p.words.getD p.i 0 ^^^ ((before ^^^ (before >>> 30)) * (1566083941 : UInt32))) -
    UInt32.ofNat p.i
  { p with words := p.words.setIfInBounds p.i w }.advance

def fromWords (seed : Array UInt32) : MersenneTwister :=
  let start : Pass := ⟨fromWord 19650218, 1, 0⟩
  let absorbed := (List.range (max size seed.size)).foldl (fun p _ => p.absorb seed) start
  let settled := (List.range (size - 1)).foldl (fun p _ => p.settle) absorbed
  ⟨settled.words.setIfInBounds 0 0x80000000, size⟩

/-- The words of a number, the least significant first; zero has one word. -/
def wordsOf (n : Nat) : List UInt32 :=
  if h : n < 4294967296 then [UInt32.ofNat n]
  else UInt32.ofNat (n % 4294967296) :: wordsOf (n / 4294967296)
termination_by n
decreasing_by omega

def ofSeed (seed : Nat) : MersenneTwister :=
  fromWords (wordsOf seed).toArray

def twisted (upper lower further : UInt32) : UInt32 :=
  let y := (upper &&& 0x80000000) ||| (lower &&& 0x7fffffff)
  further ^^^ (y >>> 1) ^^^ (if y &&& 1 = 0 then 0 else 0x9908b0df)

def twist (words : Array UInt32) : Array UInt32 :=
  (List.range size).foldl
    (fun ws k =>
      ws.setIfInBounds k
        (twisted (ws.getD k 0) (ws.getD ((k + 1) % size) 0) (ws.getD ((k + 397) % size) 0)))
    words

def temper (w : UInt32) : UInt32 :=
  let a := w ^^^ (w >>> 11)
  let b := a ^^^ ((a <<< 7) &&& 0x9d2c5680)
  let c := b ^^^ ((b <<< 15) &&& 0xefc60000)
  c ^^^ (c >>> 18)

def next (g : MersenneTwister) : UInt32 × MersenneTwister :=
  if g.used < size then (temper (g.words.getD g.used 0), { g with used := g.used + 1 })
  else
    let words := twist g.words
    (temper (words.getD 0 0), ⟨words, 1⟩)

instance : RandomSource MersenneTwister where
  next := next

end MersenneTwister

end Timetabling
