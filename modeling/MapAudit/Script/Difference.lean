import MapAudit.Script.Raw

/-! # Differences of texts

    Two texts are compared line by line. A script of changes says which lines are to be
    deleted from the first one and which are to be inserted, so that it becomes the
    second one. The script is as short as possible. But unless it has to be, lines that no
    line of the other text is equal to, and most of those that many are, are changed in
    any case.

    Among scripts of one length the search prefers some to others, and then every run of
    changes is moved: it goes to the end of the text as far as it can, unless it can
    stand beside a run of changes in the other text.
-/

namespace MapAudit.Script

/-- **Change**: lines that are deleted, and lines that take their place. -/
structure Change where
  /-- The number of the first line that is deleted from the first text. -/
  first : Nat
  /-- The number of the first line that is inserted from the second text. -/
  second : Nat
  /-- How many lines are deleted. -/
  deleted : Nat
  /-- How many lines are inserted. -/
  inserted : Nat
  deriving DecidableEq, Repr

namespace Difference

/-! ## Shortest scripts -/

/-- **Rectangle** of pairs of lines, from the one with the lowest numbers up to the one
    with the highest. -/
structure Rectangle where
  /-- The lowest number of a line of the first text. -/
  left : Int
  /-- The number after the highest one. -/
  right : Int
  /-- The lowest number of a line of the second text. -/
  top : Int
  /-- The number after the highest one. -/
  bottom : Int

/-- The farthest places that were reached on diagonals, and the diagonals that are looked
    at. On a diagonal the difference of the numbers of lines stays the same. -/
structure Front where
  /-- The places, by the diagonals, the lowest of which has the number `base`. -/
  places : Array Int
  /-- The number of the lowest diagonal. -/
  base : Int
  /-- The lowest diagonal that is looked at. -/
  low : Int
  /-- The highest one. -/
  high : Int

namespace Front

/-- The place on a diagonal. -/
def placeOn (f : Front) (d : Int) : Int :=
  f.places.getD (d - f.base).toNat 0

/-- Sets the place on a diagonal. -/
def put (f : Front) (d x : Int) : Front :=
  { f with places := f.places.setIfInBounds (d - f.base).toNat x }

/-- Looks at one more diagonal on both sides, or at one less where there is none. What was
    not reached yet has a place that is worse than any. -/
def widened (f : Front) (least greatest worst : Int) : Front :=
  let f := if least < f.low then ({ f with low := f.low - 1 }).put (f.low - 2) worst
    else { f with low := f.low + 1 }
  if f.high < greatest then ({ f with high := f.high + 1 }).put (f.high + 2) worst
  else { f with high := f.high - 1 }

end Front

section Search

variable (same : Nat → Nat → Bool)

/-- Whether lines are the same. -/
def areSame (x y : Int) : Bool :=
  same x.toNat y.toNat

/-- Goes on from a place along its diagonal over at most `n` pairs of lines that are the
    same. -/
def slideOn (r : Rectangle) : (n : Nat) → (x y : Int) → Int
  | 0, x, _ => x
  | n + 1, x, y =>
    if x < r.right && y < r.bottom && areSame same x y then slideOn r n (x + 1) (y + 1) else x

/-- Goes back from a place in the same way. -/
def slideBack (r : Rectangle) : (n : Nat) → (x y : Int) → Int
  | 0, x, _ => x
  | n + 1, x, y =>
    if r.left < x && r.top < y && areSame same (x - 1) (y - 1) then slideBack r n (x - 1) (y - 1)
    else x

/-- Moves a front by one change, from the highest diagonal down. The answer has the place
    where it meets the other front, if it does. -/
def advance (step : Front → Int → Int) (meets : Int → Int → Bool) : (n : Nat) → (d : Int) →
    Front → Front × Option (Int × Int)
  | 0, _, f => (f, none)
  | n + 1, d, f =>
    if d < f.low then (f, none)
    else
      let x := step f d
      let f := f.put d x
      if meets d x then (f, some (x, x - d)) else advance step meets n (d - 2) f

/-- The place where fronts from both ends of a rectangle meet, after at most `n` changes. -/
def meeting (r : Rectangle) (isOdd : Bool) : (n : Nat) → (fore back : Front) → Int × Int
  | 0, _, _ => (r.left, r.top)
  | n + 1, fore, back =>
    let size := ((r.right - r.left) + (r.bottom - r.top)).toNat + 1
    let least := r.left - r.bottom
    let greatest := r.right - r.top
    let fore := fore.widened least greatest (-1)
    let onward (f : Front) (d : Int) : Int :=
      let x := if f.placeOn (d - 1) < f.placeOn (d + 1) then f.placeOn (d + 1)
        else f.placeOn (d - 1) + 1
      slideOn same r size x (x - d)
    match advance onward (fun d x => isOdd && back.low ≤ d && d ≤ back.high && back.placeOn d ≤ x)
        size fore.high fore with
    | (_, some place) => place
    | (fore, none) =>
      let back := back.widened least greatest (r.right + r.bottom + size)
      let backward (f : Front) (d : Int) : Int :=
        let x := if f.placeOn (d - 1) < f.placeOn (d + 1) then f.placeOn (d - 1)
          else f.placeOn (d + 1) - 1
        slideBack same r size x (x - d)
      match advance backward (fun d x => !isOdd && fore.low ≤ d && d ≤ fore.high && x ≤ fore.placeOn d)
          size back.high back with
      | (_, some place) => place
      | (back, none) => meeting r isOdd n fore back

/-- The place that a shortest script for a rectangle goes through. -/
def middle (r : Rectangle) : Int × Int :=
  let base := r.left - r.bottom - 2
  let size := ((r.right - r.left) + (r.bottom - r.top)).toNat + 5
  let front (d x : Int) : Front :=
    ({ places := Array.replicate size 0, base, low := d, high := d } : Front).put d x
  let fore := front (r.left - r.top) r.left
  let back := front (r.right - r.bottom) r.right
  let isOdd := ((r.left - r.top) - (r.right - r.bottom)) % 2 ≠ 0
  meeting same r isOdd size fore back

/-- The lines that a shortest script for a rectangle deletes and inserts, where rectangles
    are divided at most `n` times. -/
def script : (n : Nat) → Rectangle → List Nat × List Nat
  | 0, _ => ([], [])
  | n + 1, r =>
    let size := ((r.right - r.left) + (r.bottom - r.top)).toNat + 1
    let x := slideOn same r size r.left r.top
    let r := { r with left := x, top := r.top + (x - r.left) }
    let x := slideBack same r size r.right r.bottom
    let r := { r with right := x, bottom := r.bottom - (r.right - x) }
    let range (low high : Int) : List Nat := List.range' low.toNat (high - low).toNat
    if r.left = r.right then ([], range r.top r.bottom)
    else if r.top = r.bottom then (range r.left r.right, [])
    else
      let (x, y) := middle same r
      let (deleted, inserted) := script n { r with right := x, bottom := y }
      let (deleted', inserted') := script n { r with left := x, top := y }
      (deleted ++ deleted', inserted ++ inserted')

end Search

/-! ## Lines that are changed in any case -/

/-- How sure it is that a line is changed. -/
inductive Fate where
  /-- It is compared. -/
  | kept
  /-- It is changed, as no line of the other text is equal to it. -/
  | changed
  /-- It is changed if those around it are, as many lines are equal to it. -/
  | doubtful
  deriving DecidableEq, Repr

/-- Half of the binary digits of a number, as a power of two. -/
def roughRoot : (n : Nat) → (size : Nat) → (start : Nat) → Nat
  | 0, _, start => start
  | n + 1, size, start =>
    let size := size / 4
    if size = 0 then start else roughRoot n size (2 * start)

/-- The fates of the lines of a text, by the numbers of lines of the other text that are
    equal to them. -/
def firstFates (counts : List Nat) : List Fate :=
  let many := roughRoot counts.length (counts.length / 64) 5
  counts.map fun n => if n = 0 then .changed else if many < n then .doubtful else .kept

/-- Takes doubtful lines out of runs of at least so many of them. -/
def withoutSubruns (least : Nat) (run : List Fate) : List Fate :=
  (run.splitBy fun a b => (a == .doubtful) == (b == .doubtful)).flatMap fun part =>
    if part.head? = some .doubtful && least ≤ part.length then part.map fun _ => .kept else part

/-- Lets doubtful lines at the start of a run be compared, up to the third of three changed
    lines in a row, or to a changed line that at least eight lines stand before. -/
def clearedStart : (place consecutive : Nat) → List Fate → List Fate
  | _, _, [] => []
  | place, consecutive, fate :: rest =>
    if 8 ≤ place && fate = .changed then fate :: rest
    else match fate with
      | .doubtful | .kept => .kept :: clearedStart (place + 1) 0 rest
      | .changed =>
        if consecutive = 2 then fate :: rest else fate :: clearedStart (place + 1) (consecutive + 1) rest

/-- The final fates in a run of lines that need not be compared. The run begins with a line
    that is changed, and so it ends. -/
def settledRun (run : List Fate) : List Fate :=
  let doubtful := run.count .doubtful
  if run.length < 4 * doubtful then
    run.map fun fate => if fate = .doubtful then .kept else fate
  else
    let least := roughRoot run.length (run.length / 4) 1 + 1
    let run := withoutSubruns least run
    (clearedStart 0 0 (clearedStart 0 0 run).reverse).reverse

/-- The final fates of lines, of which at most `n` runs are looked at. Doubtful lines count
    as changed only between lines that are. -/
def settled : (n : Nat) → List Fate → List Fate
  | 0, fates => fates
  | n + 1, fates =>
    let before := fates.takeWhile (· ≠ .changed)
    let rest := fates.drop before.length
    let run := rest.takeWhile (· ≠ .kept)
    let doubtful := (run.reverse.takeWhile (· = .doubtful)).length
    let inner := run.take (run.length - doubtful)
    let keptBefore := before.map fun _ => Fate.kept
    if rest.isEmpty then keptBefore
    else keptBefore ++ settledRun inner ++ List.replicate doubtful .kept
      ++ settled n (rest.drop run.length)

/-! ## Moving runs of changes -/

/-- Marks of lines that are changed, with unchanged ones around. -/
structure Marks where
  /-- The marks. -/
  marks : Array Bool

namespace Marks

/-- Whether a line is changed. -/
def isSet (m : Marks) (i : Int) : Bool :=
  0 ≤ i && m.marks.getD i.toNat false

/-- Marks a line as changed, or as unchanged. -/
def put (m : Marks) (i : Int) (isChanged : Bool) : Marks :=
  { marks := m.marks.setIfInBounds i.toNat isChanged }

/-- The first line from a place on that is not changed. -/
def endFrom (m : Marks) : (n : Nat) → (i : Int) → Int
  | 0, i => i
  | n + 1, i => if m.isSet i then endFrom m n (i + 1) else i

/-- The last line up to a place that is not changed. -/
def startUpTo (m : Marks) : (n : Nat) → (i : Int) → Int
  | 0, i => i
  | n + 1, i => if m.isSet i then startUpTo m n (i - 1) else i

end Marks

/-- A run of changes that is being moved. -/
structure Run where
  /-- The marks of the text. -/
  own : Marks
  /-- The first line of the run. -/
  start : Int
  /-- The line after it. -/
  stop : Int
  /-- The place in the other text that the end of the run corresponds to. -/
  other : Int

section Moving

variable (keys : Array Nat) (others : Marks) (n : Nat)

/-- The key of a line. -/
def keyAt (i : Int) : Nat :=
  keys.getD i.toNat 0

/-- Moves a run back by one line. -/
def Run.back (r : Run) : Run :=
  { r with
    own := (r.own.put (r.start - 1) true).put (r.stop - 1) false
    start := r.start - 1
    stop := r.stop - 1
    other := others.startUpTo n (r.other - 1) }

/-- Moves a run back as far as it goes, at most by `k` lines. Runs that it meets become
    parts of it. -/
def Run.backward : (k : Nat) → Run → Run
  | 0, r => r
  | k + 1, r =>
    if 0 < r.start && keyAt keys (r.start - 1) = keyAt keys (r.stop - 1) then
      let r := r.back others n
      backward k { r with start := r.own.startUpTo n (r.start - 1) + 1 }
    else r

/-- Moves a run on as far as it goes, at most by `k` lines. The answer also has the last end
    of it at which there is a run in the other text. -/
def Run.forward : (k : Nat) → (last : Int) → Run → Run × Int
  | 0, last, r => (r, last)
  | k + 1, last, r =>
    if r.stop < keys.size && keyAt keys r.start = keyAt keys r.stop then
      let own := (r.own.put r.start false).put r.stop true
      let stop := own.endFrom n (r.stop + 1)
      let other := others.endFrom n (r.other + 1)
      let last := if others.isSet (r.other + 1) then stop else last
      forward k last { own, start := r.start + 1, stop, other }
    else (r, last)

/-- Moves a run back and forth until it does not grow any more, at most `k` times. -/
def Run.grown : (k : Nat) → Run → Run × Int
  | 0, r => (r, keys.size)
  | k + 1, r =>
    let size := r.stop - r.start
    let r := r.backward keys others n n
    let last : Int := if others.isSet (r.other - 1) then r.stop else keys.size
    let (r, last) := r.forward keys others n n last
    if r.stop - r.start = size then (r, last) else grown k r

/-- Moves a run back to a place, at most by `k` lines. -/
def Run.backTo (place : Int) : (k : Nat) → Run → Run
  | 0, r => r
  | k + 1, r => if place < r.stop then backTo place k (r.back others n) else r

/-- The line at which the next run begins, and the place in the other text that it
    corresponds to. At most `k` lines are passed. -/
def nextRun (own : Marks) : (k : Nat) → (i other : Int) → Int × Int
  | 0, i, other => (i, other)
  | k + 1, i, other =>
    if i < keys.size && !own.isSet i then nextRun own k (i + 1) (others.endFrom n other + 1)
    else (i, other)

/-- Moves all runs of a text, at most `k` of them. -/
def movedRuns : (k : Nat) → (own : Marks) → (i other : Int) → Marks
  | 0, own, _, _ => own
  | k + 1, own, i, other =>
    let (i, other) := nextRun keys others n own n i other
    if keys.size ≤ i then own
    else
      let r : Run := {
        own, start := i, stop := own.endFrom n (i + 1), other := others.endFrom n other }
      let (r, last) := r.grown keys others n n
      let r := r.backTo others n last n
      movedRuns k r.own r.stop r.other

end Moving

/-! ## Scripts -/

/-- The changes that marks say, of which at most `n` are read. -/
def changesOf (a b : Marks) : (n : Nat) → (i j : Nat) → List Change
  | 0, _, _ => []
  | n + 1, i, j =>
    if a.marks.size ≤ i && b.marks.size ≤ j then []
    else
      let deleted := (a.endFrom a.marks.size i).toNat - i
      let inserted := (b.endFrom b.marks.size j).toNat - j
      let rest := changesOf a b n (i + deleted + 1) (j + inserted + 1)
      if deleted = 0 && inserted = 0 then rest
      else { first := i, second := j, deleted, inserted } :: rest

/-- Numbers for keys, so that equal keys have equal numbers. -/
def numbered (keys : List Raw) : List Nat :=
  let sorted := (keys.zipIdx.mergeSort fun a b => Raw.isAtMost a.1 b.1)
  let (_, _, named) := sorted.foldl (fun (number, last, named) (key, i) =>
    let number := if last = some key then number else number + 1
    (number, some key, (i, number) :: named)) ((0, none, []) : Nat × Option Raw × List (Nat × Nat))
  (named.mergeSort fun a b => a.1 ≤ b.1).map (·.2)

/-- The number of lines at the start that two texts have in common. -/
def commonStart : List Raw → List Raw → Nat
  | a :: as, b :: bs => if a = b then commonStart as bs + 1 else 0
  | _, _ => 0

/-- Marks the lines that a list says. -/
def marked (size : Nat) (lines : List Nat) : Marks :=
  { marks := lines.foldl (fun marks i => marks.setIfInBounds i true) (Array.replicate size false) }

/-- The marks of changed lines of two texts, whose lines have keys. All lines are compared
    if the script `isLeast`. -/
def marksOf (isLeast : Bool) (a b : List Nat) : Marks × Marks :=
  let count (keys : List Nat) : Array Nat :=
    keys.foldl (fun counts k => counts.modify k (· + 1)) (Array.replicate (a.length + b.length + 1) 0)
  let fates (own others : List Nat) : List Fate :=
    let counts := count others
    if isLeast then own.map fun _ => .kept
    else settled own.length (firstFates (own.map fun k => counts.getD k 0))
  let kept (own others : List Nat) : List (Nat × Nat) :=
    ((own.zipIdx.zip (fates own others)).filter fun (_, fate) => fate = .kept).map (·.1)
  let keptA := (kept a b).toArray
  let keptB := (kept b a).toArray
  let same (i j : Nat) : Bool := (keptA[i]?.map (·.1)) == (keptB[j]?.map (·.1))
  let (deleted, inserted) := script same (keptA.size + keptB.size + 1)
    { left := 0, right := keptA.size, top := 0, bottom := keptB.size }
  let unmarked (size : Nat) (kept : Array (Nat × Nat)) (changed : List Nat) : Marks :=
    let isKept := marked size (kept.toList.map (·.2))
    let moved := changed.filterMap fun i => kept[i]?.map (·.2)
    { marks := moved.foldl (fun marks i => marks.setIfInBounds i true) (isKept.marks.map (!·)) }
  let marksA := unmarked a.length keptA deleted
  let marksB := unmarked b.length keptB inserted
  let n := a.length + b.length + 1
  let marksA := movedRuns a.toArray marksB n n marksA 0 0
  let marksB := movedRuns b.toArray marksA n n marksB 0 0
  (marksA, marksB)

/-- **Script** of changes that turn one text into another. The lines of the texts are given
    as they are, and lines count as equal if their keys are. Lines that are the same at
    both ends are left out, but for `margin` lines. The script is as short as possible if
    it `isLeast`, and else nearly so. -/
def changes (isLeast : Bool) (margin : Nat) (key : Raw → Raw) (a b : List Raw) : List Change :=
  let start := commonStart a b - margin
  let limit := min a.length b.length - start
  let finish := min limit (commonStart a.reverse b.reverse) - margin
  let inner (lines : List Raw) : List Raw := (lines.drop start).take (lines.length - start - finish)
  let innerA := inner a
  let innerB := inner b
  let numbers := numbered ((innerA ++ innerB).map key)
  let (marksA, marksB) := marksOf isLeast (numbers.take innerA.length) (numbers.drop innerA.length)
  (changesOf marksA marksB (a.length + b.length + 1) 0 0).map fun c =>
    { c with first := c.first + start, second := c.second + start }

end Difference

end MapAudit.Script
