/-! # Sorting in place

A quicksort that looks for order in what it sorts. It is not stable, but the method fixes where it
puts elements that are equal. Short ranges are sorted by insertion, and ranges in which the pivots
were bad too often by a heap. -/

namespace ModelCompiler.Sorting

variable {α : Type}

/-- Whether the element at one index is less than the one at another. -/
def lessAt (less : α → α → Bool) (xs : Array α) (i j : Nat) : Bool :=
  match xs[i]?, xs[j]? with
  | some x, some y => less x y
  | _, _ => false

/-! ## Insertion -/

/-- Moves the element at an index to the left, past those that are greater, but not past `first`. -/
def sinkLeft (less : α → α → Bool) (first : Nat) : Nat → Array α → Array α
  | 0, xs => xs
  | i + 1, xs =>
    if first < i + 1 && lessAt less xs (i + 1) i then
      sinkLeft less first i (xs.swapIfInBounds (i + 1) i)
    else xs

/-- Moves the element at an index to the right, past `count` smaller ones at most. -/
def sinkRight (less : α → α → Bool) : Nat → Nat → Array α → Array α
  | 0, _, xs => xs
  | count + 1, i, xs =>
    if lessAt less xs (i + 1) i then sinkRight less count (i + 1) (xs.swapIfInBounds (i + 1) i)
    else xs

/-- Sorts the range from `first` to `last`, which is not part of it. -/
def insertionSort (less : α → α → Bool) (first last : Nat) (xs : Array α) : Array α :=
  (List.range' (first + 1) (last - first - 1)).foldl (fun xs i => sinkLeft less first i xs) xs

/-! ## Heaps -/

/-- Moves the element at `root` down in the heap of the given size that begins at `first`. -/
def siftDown (less : α → α → Bool) (first size : Nat) : Nat → Nat → Array α → Array α
  | 0, _, xs => xs
  | fuel + 1, root, xs =>
    let left := 2 * root + 1
    if size ≤ left then xs
    else
      let child :=
        if left + 1 < size && lessAt less xs (first + left) (first + left + 1) then left + 1
        else left
      if lessAt less xs (first + root) (first + child) then
        siftDown less first size fuel child (xs.swapIfInBounds (first + root) (first + child))
      else xs

def heapSort (less : α → α → Bool) (first last : Nat) (xs : Array α) : Array α :=
  let size := last - first
  let heap := (List.range ((size - 1) / 2 + 1)).reverse.foldl
    (fun xs i => siftDown less first size size i xs) xs
  (List.range size).reverse.foldl
    (fun xs i => siftDown less first i size 0 (xs.swapIfInBounds first (first + i))) heap

/-! ## Pivots -/

/-- What the choice of a pivot tells about a range. -/
inductive Trend where
  | unknown
  | increasing
  | decreasing
deriving DecidableEq, Repr

/-- Two indices in the order of their elements, and the number of exchanges so far. -/
def ordered (less : α → α → Bool) (xs : Array α) (i j swaps : Nat) : Nat × Nat × Nat :=
  if lessAt less xs j i then (j, i, swaps + 1) else (i, j, swaps)

/-- The index of the median of three elements. -/
def median (less : α → α → Bool) (xs : Array α) (i j k swaps : Nat) : Nat × Nat :=
  let (i, j, swaps) := ordered less xs i j swaps
  let (j, _, swaps) := ordered less xs j k swaps
  let (_, j, swaps) := ordered less xs i j swaps
  (j, swaps)

/-- The most exchanges that the choice of a pivot makes. -/
def maxSwaps : Nat := 12

/-- The index of a pivot. In long ranges it is the median of three medians. -/
def choosePivot (less : α → α → Bool) (xs : Array α) (first last : Nat) : Nat × Trend :=
  let length := last - first
  let quarter := length / 4
  let i := first + quarter
  let j := first + quarter * 2
  let k := first + quarter * 3
  let (pivot, swaps) :=
    if 50 ≤ length then
      let (i, swaps) := median less xs (i - 1) i (i + 1) 0
      let (j, swaps) := median less xs (j - 1) j (j + 1) swaps
      let (k, swaps) := median less xs (k - 1) k (k + 1) swaps
      median less xs i j k swaps
    else if 8 ≤ length then median less xs i j k 0
    else (j, 0)
  (pivot, if swaps = 0 then .increasing else if swaps = maxSwaps then .decreasing else .unknown)

/-- The next of a sequence of numbers that look random. -/
def scramble (n : UInt64) : UInt64 :=
  let n := n ^^^ (n <<< 13)
  let n := n ^^^ (n >>> 7)
  n ^^^ (n <<< 17)

/-- Exchanges three elements in the middle of a range with others. -/
def breakPatterns (first last : Nat) (xs : Array α) : Array α :=
  let length := last - first
  if length < 8 then xs
  else
    let modulus := 1 <<< (Nat.log2 length + 1)
    let middle := first + length / 4 * 2 - 1
    let step := fun (state : UInt64 × Array α) i =>
      let random := scramble state.1
      let other := random.toNat % modulus
      let other := if length ≤ other then other - length else other
      (random, state.2.swapIfInBounds (middle + i) (first + other))
    ([0, 1, 2].foldl step (length.toUInt64, xs)).2

/-! ## Partitions -/

/-- The first index from `i` on, and at most `j`, at which a test fails. -/
def skipRight (test : Nat → Bool) : Nat → Nat → Nat → Nat
  | 0, i, _ => i
  | fuel + 1, i, j => if i ≤ j && test i then skipRight test fuel (i + 1) j else i

/-- The last index up to `j`, and at least `i`, at which a test fails. -/
def skipLeft (test : Nat → Bool) (i : Nat) : Nat → Nat
  | 0 => 0
  | j + 1 => if i ≤ j + 1 && test (j + 1) then skipLeft test i j else j + 1

/-- Exchanges elements from the two ends until those that belong to the left come first. The results
are the index at which the two ends met from the left and from the right, and whether nothing had to
be exchanged. -/
def meet (left right : Array α → Nat → Bool) : Nat → Bool → Nat → Nat → Array α →
    Nat × Nat × Bool × Array α
  | 0, clean, i, j, xs => (i, j, clean, xs)
  | fuel + 1, clean, i, j, xs =>
    let i := skipRight (left xs) xs.size i j
    let j := skipLeft (right xs) i j
    if j < i then (i, j, clean, xs)
    else meet left right fuel false (i + 1) (j - 1) (xs.swapIfInBounds i j)

/-- Puts what is less than the pivot before it and all else after it. The results are the new index
of the pivot and whether the range was like that before. -/
def partition (less : α → α → Bool) (first last pivot : Nat) (xs : Array α) :
    Nat × Bool × Array α :=
  let xs := xs.swapIfInBounds first pivot
  let (_, j, clean, xs) := meet (fun xs i => lessAt less xs i first)
    (fun xs j => !lessAt less xs j first) xs.size true (first + 1) (last - 1) xs
  (j, clean, xs.swapIfInBounds j first)

/-- Puts what is equal to the pivot before all else, where nothing is less, and gives the index
after it. -/
def partitionEqual (less : α → α → Bool) (first last pivot : Nat) (xs : Array α) :
    Nat × Array α :=
  let xs := xs.swapIfInBounds first pivot
  let (i, _, _, xs) := meet (fun xs i => !lessAt less xs first i)
    (fun xs j => lessAt less xs first j) xs.size true (first + 1) (last - 1) xs
  (i, xs)

/-- Sorts a range in which few elements are out of order. The first result says whether that was
enough. -/
def mend (less : α → α → Bool) (first last : Nat) : Nat → Nat → Array α → Bool × Array α
  | 0, _, xs => (false, xs)
  | steps + 1, i, xs =>
    let i := skipRight (fun i => !lessAt less xs i (i - 1)) xs.size i (last - 1)
    if i = last then (true, xs)
    else if last - first < 50 then (false, xs)
    else
      let xs := xs.swapIfInBounds i (i - 1)
      let xs := if 2 ≤ i - first then sinkLeft less 0 (i - 1) xs else xs
      let xs := if 2 ≤ last - i then sinkRight less (last - i - 1) i xs else xs
      mend less first last steps i xs

/-! ## Sorting -/

/-- What is known about the last partition. -/
structure Progress where
  balanced : Bool := true
  partitioned : Bool := true

/-- Sorts a range; `limit` is how often a pivot may still be bad. -/
def sortRange (less : α → α → Bool) : Nat → Progress → Nat → Nat → Nat → Array α → Array α
  | 0, _, _, _, _, xs => xs
  | fuel + 1, progress, limit, first, last, xs =>
    let length := last - first
    if length ≤ 12 then insertionSort less first last xs
    else if limit = 0 then heapSort less first last xs
    else
      let limit := if progress.balanced then limit else limit - 1
      let xs := if progress.balanced then xs else breakPatterns first last xs
      let (pivot, trend) := choosePivot less xs first last
      let falls := trend == .decreasing
      let xs := if falls then
          xs.extract 0 first ++ (xs.extract first last).reverse ++ xs.extract last xs.size
        else xs
      let pivot := if falls then last - 1 - (pivot - first) else pivot
      let tries := progress.balanced && progress.partitioned && trend != .unknown
      let (done, xs) := if tries then mend less first last 5 (first + 1) xs else (false, xs)
      if done then xs
      else if 0 < first && !lessAt less xs (first - 1) pivot then
        let (middle, xs) := partitionEqual less first last pivot xs
        sortRange less fuel progress limit middle last xs
      else
        let (middle, partitioned, xs) := partition less first last pivot xs
        let left := middle - first
        let right := last - middle
        if left < right then
          let xs := sortRange less fuel {} limit first middle xs
          sortRange less fuel { balanced := decide (length / 8 ≤ left), partitioned } limit
            (middle + 1) last xs
        else
          let xs := sortRange less fuel {} limit (middle + 1) last xs
          sortRange less fuel { balanced := decide (length / 8 ≤ right), partitioned } limit
            first middle xs

/-- The elements of a list in order. -/
def sort (less : α → α → Bool) (xs : List α) : List α :=
  let size := xs.length
  let limit := if size = 0 then 0 else Nat.log2 size + 1
  (sortRange less (size + 1) {} limit 0 size xs.toArray).toList

end ModelCompiler.Sorting
