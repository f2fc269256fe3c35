import ShapeBinding.Shape
/-!
# The order of shapes

Shapes are put into an order in which each comes after all those that it refers to.  Shapes go by their positions in the
order of discovery: whenever several are ready, the first of them is placed (`place`).  When shapes are left and none is
ready, they refer to each other in a cycle; starting at the first that is left and always following the first reference
that is left, `cycle?` walks until a shape comes up again, and the stretch between is the cycle.
-/
namespace ShapeBinding
namespace Precedence

/-! ## References by position -/

def position? (shapes : List Shape) (subject : Term) : Option Nat := shapes.findIdx? (·.subject = subject)

def positionsOf (shapes : List Shape) (s : Shape) : Except CompileError (List Nat) :=
  s.references.mapM fun (property, reference) =>
    match position? shapes reference with
    | some j => .ok j
    | none => .error (.unknownReference s.name property reference)

/-! ## Placing -/

def needs (deps : List (List Nat)) (i : Nat) : List Nat := deps.getD i []

/-- Whether a position is not placed yet while all that it needs is. -/
def isReady (deps : List (List Nat)) (placed : List Nat) (i : Nat) : Bool :=
  i ∉ placed && (needs deps i).all (· ∈ placed)

/-- Places so many more positions, each time the first that is ready; where none is, what has been placed is the
error. -/
def place (deps : List (List Nat)) : Nat → List Nat → Except (List Nat) (List Nat)
  | 0, placed => .ok placed
  | n + 1, placed =>
    match (List.range deps.length).find? (isReady deps placed) with
    | some i => place deps n (placed ++ [i])
    | none => .error placed

/-! ## Cycles -/

/-- The first position that a position needs and that is not placed. -/
def next? (deps : List (List Nat)) (placed : List Nat) (i : Nat) : Option Nat :=
  (List.range deps.length).find? fun j => j ∈ needs deps i && j ∉ placed

/-- The positions that a walk has not come to. -/
def unvisited (deps : List (List Nat)) (path : List Nat) : List Nat :=
  (List.range deps.length).filter (· ∉ path)

theorem length_unvisited_append {deps : List (List Nat)} {path : List Nat} {j : Nat} (hj : j < deps.length)
    (hp : j ∉ path) : (unvisited deps (path ++ [j])).length < (unvisited deps path).length := by
  have h : unvisited deps (path ++ [j]) = (unvisited deps path).filter (· ≠ j) := by
    unfold unvisited
    rw [List.filter_filter]
    refine List.filter_congr fun i _ => ?_
    by_cases h1 : i = j <;> simp [h1]
  rw [h]
  exact List.length_filter_lt_length_iff_exists.2
    ⟨j, List.mem_filter.2 ⟨List.mem_range.2 hj, by simpa using hp⟩, by simp⟩

theorem lt_of_next? {deps : List (List Nat)} {placed : List Nat} {i j : Nat} (h : next? deps placed i = some j) :
    j < deps.length := List.mem_range.1 (List.mem_of_find?_eq_some h)

set_option linter.unusedVariables false in
/-- Walks on from the last position of a path until a position comes up again; the answer is the path from there.
There is no answer if the walk comes to a position that needs nothing more. -/
def walk (deps : List (List Nat)) (placed path : List Nat) (current : Nat) : Option (List Nat) :=
  match h : next? deps placed current with
  | none => none
  | some j => if hj : j ∈ path then some (path.dropWhile (· ≠ j)) else walk deps placed (path ++ [j]) j
termination_by (unvisited deps path).length
decreasing_by exact length_unvisited_append (lt_of_next? h) hj

def cycle? (deps : List (List Nat)) (placed : List Nat) : Option (List Nat) :=
  ((List.range deps.length).find? (· ∉ placed)).bind fun start => walk deps placed [start] start

def shapesAt (shapes : List Shape) (positions : List Nat) : List Shape := positions.filterMap (shapes[·]?)

/-- The positions of the shapes in an order in which every shape comes after those that it refers to. -/
def order (shapes : List Shape) : Except CompileError (List Nat) := do
  let deps ← shapes.mapM (positionsOf shapes)
  match place deps shapes.length [] with
  | .ok placed => .ok placed
  | .error placed => .error (.cycle ((shapesAt shapes ((cycle? deps placed).getD [])).map (·.name)))

end Precedence
end ShapeBinding
