-- Checking the fields of an object. All problems are collected, in the order of
-- the fields.
import MomentInsights.Json.Value
import MomentInsights.Service.Fault

namespace MomentInsights.Service

/-- A value, or everything that is wrong with what it was read from. -/
inductive Checked (α : Type) where
  | good (a : α)
  | bad (problems : List Problem)
  deriving Repr

namespace Checked

def problems : Checked α → List Problem
  | good _ => []
  | bad ps => ps

def map (f : α → β) : Checked α → Checked β
  | good a => good (f a)
  | bad ps => bad ps

/-- Applies a checked function to a checked value. -/
def seq (f : Checked (α → β)) (x : Checked α) : Checked β :=
  match f, x with
  | good f, good a => good (f a)
  | f, x => bad (f.problems ++ x.problems)

instance : Applicative Checked where
  pure := good
  map := map
  seq f x := f.seq (x ())

/-- The value of a field, or its one problem. -/
def ofField (field : String) : Except Fault α → Checked α
  | .ok a => good a
  | .error fault => bad [⟨field, fault⟩]

/-- All values of a list, or all problems. -/
def all : List (Checked α) → Checked (List α)
  | [] => good []
  | x :: xs => List.cons <$> x <*> all xs

/-- The checked items of a list, each under its place. -/
def items (field : String) (check : String → Json → Checked α) (xs : List Json) :
    Checked (List α) :=
  all (xs.zipIdx.map fun (x, i) => check s!"{field}.{i}" x)

end Checked

/-! ## Members of an object -/

/-- The name of a member of the object that stands at a place. -/
def fieldAt (place name : String) : String := if place = "" then name else s!"{place}.{name}"

/-- A member that has to be there. -/
def required (place : String) (j : Json) (name : String) (check : Json → Except Fault α) :
    Checked α :=
  Checked.ofField (fieldAt place name) <|
    match j.member? name with
    | some v => check v
    | none => .error .missing

/-- A member that may be left out. -/
def optional (place : String) (j : Json) (name : String) (or : α)
    (check : Json → Except Fault α) : Checked α :=
  Checked.ofField (fieldAt place name) <|
    match j.member? name with
    | some v => check v
    | none => .ok or

/-- A value that may be null. -/
def orNull (check : Json → Except Fault α) : Json → Except Fault (Option α)
  | .null => .ok none
  | j => some <$> check j

/-- A member that may be left out or null. -/
def nullable (place : String) (j : Json) (name : String) (check : Json → Except Fault α) :
    Checked (Option α) :=
  optional place j name none (orNull check)

/-- What an object is checked for; anything else is no object. -/
def object (place : String) (check : Json → Checked α) : Json → Checked α
  | .obj ms => check (.obj ms)
  | _ => .bad [⟨place, .notAnObject⟩]

end MomentInsights.Service
