namespace DnsSteering.Order.Runs

variable {α : Type}

section Finding

variable (less? : α → α → Option Bool)

-- How far a run goes on behind its last value, and what is behind it.
def rising (last : α) : List α → Option (List α × List α)
  | [] => some ([], [])
  | x :: xs =>
    (less? x last).bind fun falls =>
      if falls then some ([], x :: xs) else (rising x xs).map fun r => (x :: r.1, r.2)

def falling (last : α) : List α → Option (List α × List α)
  | [] => some ([], [])
  | x :: xs =>
    (less? x last).bind fun falls =>
      if falls then (falling x xs).map fun r => (x :: r.1, r.2) else some ([], x :: xs)

-- The run at the front, in ascending order, and the rest.
def front : List α → Option (List α × List α)
  | x :: y :: rest =>
    (less? y x).bind fun falls =>
      if falls then (falling less? y rest).map fun r => ((x :: y :: r.1).reverse, r.2)
      else (rising less? y rest).map fun r => (x :: y :: r.1, r.2)
  | xs => some (xs, [])

-- Into a run, by halving.
def place (x : α) (run : List α) : Option (List α) :=
  let middle := run.length / 2
  if h : middle < run.length then
    (less? x run[middle]).bind fun before =>
      if before then (place x (run.take middle)).map (· ++ run.drop middle)
      else (place x (run.drop (middle + 1))).map (run.take (middle + 1) ++ ·)
  else some [x]
termination_by run.length
decreasing_by
  all_goals
    simp only [List.length_take, List.length_drop]
    omega

-- The run at the front with at least `least` values, as far as there are so many, and the rest.
def next (least : Nat) (xs : List α) : Option (Array α × List α) :=
  (front less? xs).bind fun (run, rest) =>
    let missing := least - run.length
    ((rest.take missing).foldlM (fun run x => place less? x run) run).map fun run =>
      (run.toArray, rest.drop missing)

end Finding

section Searching

-- Goes on in strides that double, at most to `most`. Answers with the last two stops.
def stride (goesOn : Nat → Option Bool) (most : Nat) : Nat → Nat → Nat → Option (Nat × Nat)
  | 0, last, stop => some (last, min stop most)
  | fuel + 1, last, stop =>
    if most ≤ stop then some (last, most)
    else
      (goesOn stop).bind fun on =>
        if on then stride goesOn most fuel stop (2 * stop + 1) else some (last, stop)

-- Halves what lies between two places.
def halve (before : Nat → Option Bool) : Nat → Nat → Nat → Option Nat
  | 0, _, high => some high
  | fuel + 1, low, high =>
    if high ≤ low then some high
    else
      let middle := low + (high - low) / 2
      (before middle).bind fun isBefore =>
        if isBefore then halve before fuel (middle + 1) high else halve before fuel low middle

-- How many values come before a place that is sought from `hint` on.
def search (before : α → Option Bool) (xs : Array α) (hint : Nat) : Option Nat :=
  let test (i : Nat) : Option Bool := (xs[i]?).bind before
  let fuel := xs.size + 1
  (test hint).bind fun up =>
    if up then
      (stride (fun n => test (hint + n)) (xs.size - hint) fuel 0 1).bind fun (last, stop) =>
        halve test fuel (hint + last + 1) (hint + stop)
    else
      let goesOn (n : Nat) : Option Bool := (test (hint - n)).map (!·)
      (stride goesOn (hint + 1) fuel 0 1).bind fun (last, stop) =>
        halve test fuel (hint + 1 - stop) (hint - last)

end Searching

-- The end of both runs at which a merge begins. The run that is used up last is the shorter one.
inductive Side where
  | low
  | high
  deriving DecidableEq

namespace Side

def head? : Side → Array α → Option α
  | .low, xs => xs[0]?
  | .high, xs => xs.back?

-- Values from a side, and those that are left.
def cut (s : Side) (n : Nat) (xs : Array α) : Array α × Array α :=
  match s with
  | .low => (xs.extract 0 n, xs.extract n xs.size)
  | .high => (xs.extract (xs.size - n) xs.size, xs.extract 0 (xs.size - n))

def join (s : Side) (out xs : Array α) : Array α :=
  match s with
  | .low => out ++ xs
  | .high => xs ++ out

def count (s : Side) (before : α → Option Bool) (xs : Array α) : Option Nat :=
  match s with
  | .low => search before xs 0
  | .high => (search before xs (xs.size - 1)).map (xs.size - ·)

end Side

-- A merge of `left` and `right` under way. `patience` is how often in a row a side has to win.
structure Merge (α : Type) where
  side : Side
  left : Array α
  right : Array α
  out : Array α
  patience : Nat

namespace Merge

def isDone (m : Merge α) : Bool :=
  match m.side with
  | .low => m.right.isEmpty || m.left.size ≤ 1
  | .high => m.left.isEmpty || m.right.size ≤ 1

def finish (m : Merge α) : Array α × Nat :=
  match m.side with
  | .low => (m.out ++ m.right ++ m.left, m.patience)
  | .high => (m.right ++ m.left ++ m.out, m.patience)

def moveLeft (n : Nat) (m : Merge α) : Merge α :=
  let (taken, left) := m.side.cut n m.left
  { m with left := left, out := m.side.join m.out taken }

def moveRight (n : Nat) (m : Merge α) : Merge α :=
  let (taken, right) := m.side.cut n m.right
  { m with right := right, out := m.side.join m.out taken }

variable (less? : α → α → Option Bool)

-- Left values that go before the next right one.
def leftCount (m : Merge α) : Option Nat :=
  (m.side.head? m.right).bind fun y => m.side.count (fun x => (less? y x).map (!·)) m.left

def rightCount (m : Merge α) : Option Nat :=
  (m.side.head? m.left).bind fun x => m.side.count (fun y => less? y x) m.right

-- Whether the next value comes from the right.
def takesRight (m : Merge α) : Option Bool :=
  (m.side.head? m.left).bind fun x =>
    (m.side.head? m.right).bind fun y =>
      (less? y x).map fun before =>
        match m.side with
        | .low => before
        | .high => !before

-- How long a stretch has to be for searching to be worth it.
def worthwhile : Nat := 7

-- One value at a time: `wins` is how often in a row the side `right` has won.
mutual
def step : Nat → Bool → Nat → Merge α → Option (Array α × Nat)
  | 0, _, _, m => some m.finish
  | fuel + 1, right, wins, m =>
    if m.isDone then some m.finish
    else
      (takesRight less? m).bind fun takes =>
        let wins := if takes = right then wins + 1 else 1
        let after := if takes then m.moveRight 1 else m.moveLeft 1
        if after.isDone then some after.finish
        else if m.patience ≤ wins then leap fuel { after with patience := m.patience + 1 }
        else step fuel takes wins after
def leap : Nat → Merge α → Option (Array α × Nat)
  | 0, m => some m.finish
  | fuel + 1, m =>
    let m := if 1 < m.patience then { m with patience := m.patience - 1 } else m
    (leftCount less? m).bind fun lefts =>
      let m := m.moveLeft lefts
      if m.isDone then some m.finish
      else
        let m := m.moveRight 1
        if m.isDone then some m.finish
        else
          (rightCount less? m).bind fun rights =>
            let m := m.moveRight rights
            if m.isDone then some m.finish
            else
              let m := m.moveLeft 1
              if m.isDone then some m.finish
              else if worthwhile ≤ lefts || worthwhile ≤ rights then leap fuel m
              else step fuel true 0 { m with patience := m.patience + 1 }
end

-- Two neighbouring runs as one. What is in place at both ends stays out of the merge.
def runs (patience : Nat) (a b : Array α) : Option (Array α × Nat) :=
  (b[0]?).bind fun y =>
    (search (fun x => (less? y x).map (!·)) a 0).bind fun settled =>
      let left := a.extract settled a.size
      match left.back? with
      | none => some (a ++ b, patience)
      | some x =>
        (search (fun y => less? y x) b (b.size - 1)).bind fun mixed =>
          if mixed = 0 then some (a ++ b, patience)
          else
            let right := b.extract 0 mixed
            let fuel := a.size + b.size + 2
            let m : Merge α :=
              if left.size ≤ right.size then
                moveRight 1 ⟨.low, left, right, #[], patience⟩
              else moveLeft 1 ⟨.high, left, right, #[], patience⟩
            (step less? fuel true 0 m).map fun r =>
              (a.extract 0 settled ++ r.1 ++ b.extract mixed b.size, r.2)

end Merge

-- A run with where it starts and how deep its border to the next one lies.
structure Placed (α : Type) where
  start : Nat
  run : Array α
  depth : Nat

-- In which halving of `total` the middles of two neighbouring runs are parted. Both middles are
-- doubled to be whole.
def depth : Nat → Nat → Nat → Nat → Nat
  | 0, _, _, _ => 0
  | fuel + 1, total, a, b =>
    if total ≤ a then 1 + depth fuel total (2 * (a - total)) (2 * (b - total))
    else if total ≤ b then 1
    else 1 + depth fuel total (2 * a) (2 * b)

-- Runs that wait to be merged, the latest first.
structure Waiting (α : Type) where
  runs : List (Placed α)
  patience : Nat

namespace Waiting

variable (less? : α → α → Option Bool)

-- Merges while the border below the latest run lies deeper than `limit`.
def settle (limit : Nat) : Nat → Waiting α → Option (Waiting α)
  | 0, w => some w
  | fuel + 1, w =>
    match w.runs with
    | b :: a :: rest =>
      if limit < a.depth then
        (Merge.runs less? w.patience a.run b.run).bind fun (run, patience) =>
          settle limit fuel ⟨{ a with run := run } :: rest, patience⟩
      else some w
    | _ => some w

def push (total : Nat) (run : Array α) (w : Waiting α) : Option (Waiting α) :=
  match w.runs with
  | [] => some ⟨[⟨0, run, 0⟩], w.patience⟩
  | b :: _ =>
    let middle := 2 * b.start + b.run.size
    let limit := depth (total + 2) total middle (middle + b.run.size + run.size)
    (settle less? limit w.runs.length w).map fun w =>
      match w.runs with
      | [] => w
      | b :: rest =>
        ⟨⟨b.start + b.run.size, run, 0⟩ :: { b with depth := limit } :: rest, w.patience⟩

-- Merges all, the shorter of two neighbours of the last but one first.
def collapse : Nat → Waiting α → Option (List α)
  | 0, w => some (w.runs.reverse.flatMap fun p => p.run.toList)
  | fuel + 1, w =>
    match w.runs with
    | [] => some []
    | [a] => some a.run.toList
    | c :: b :: rest =>
      let last := (Merge.runs less? w.patience b.run c.run).bind fun (run, patience) =>
        collapse fuel ⟨{ b with run := run } :: rest, patience⟩
      match rest with
      | [] => last
      | a :: rest =>
        if a.run.size < c.run.size then
          (Merge.runs less? w.patience a.run b.run).bind fun (run, patience) =>
            collapse fuel ⟨c :: { a with run := run } :: rest, patience⟩
        else last

end Waiting

-- Lists below 64 are one run. Longer ones are cut so that a power of two of runs is not exceeded,
-- or only just.
def leastRun : Nat → Nat → Nat → Nat
  | 0, n, odd => n + odd
  | fuel + 1, n, odd => if n < 64 then n + odd else leastRun fuel (n / 2) (max odd (n % 2))

def collect (less? : α → α → Option Bool) (total least : Nat) :
    Nat → Waiting α → List α → Option (List α)
  | 0, w, _ => w.collapse less? w.runs.length
  | fuel + 1, w, xs =>
    if xs.isEmpty then w.collapse less? w.runs.length
    else
      (next less? least xs).bind fun (run, rest) =>
        (w.push less? total run).bind fun w => collect less? total least fuel w rest

-- Runs are merged with their neighbours, those first whose border lies deepest in a halving of the whole
-- list. What comes out where the order has gaps depends on which values are compared, so the comparisons
-- are fixed here; one that is impossible ends the sorting without a result.
def sort? (less? : α → α → Option Bool) (xs : List α) : Option (List α) :=
  collect less? xs.length (leastRun xs.length xs.length 0) (xs.length + 1)
    ⟨[], Merge.worthwhile⟩ xs

end DnsSteering.Order.Runs
