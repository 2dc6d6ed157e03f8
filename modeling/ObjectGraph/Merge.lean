import ObjectGraph.Event
import ObjectGraph.Payload

/-!
# Merging containers

`MergePolicy.merge` joins the values just read from the store with the container that a field
already holds, in the shape that the field declares.

* Nothing new: the current container stays as it is if it has the shape, and is only reshaped
  otherwise.  Nothing is coerced.
* Nothing current: the new values, coerced, repetitions kept.
* Both: the current values and then the new ones, all coerced, each at its first occurrence only.
  Lists and vectors keep repetitions if the mode says so.
-/

namespace ObjectGraph

/-- What happens to repetitions when both sides of a list have values. -/
inductive RepeatMode where
  /-- Each value once. -/
  | deduplicate
  /-- All current values, then all new ones. -/
  | append
  deriving DecidableEq, Repr

namespace RepeatMode

def name : RepeatMode → String
  | .deduplicate => "deduplicate"
  | .append => "append"

def ofName? (s : String) : Option RepeatMode :=
  if s = "deduplicate" then some .deduplicate
  else if s = "append" then some .append
  else none

def describe : RepeatMode → String
  | .deduplicate => "Deduplicate"
  | .append => "Append"

end RepeatMode

/-- How merges are made. -/
structure MergeSettings where
  listMerge : RepeatMode := .deduplicate
  deriving DecidableEq, Repr

def MergeSettings.describe (o : MergeSettings) : String :=
  Text.record "MergeOptions" [("list_merge", o.listMerge.describe)]

/-- Merges values from the store into containers. -/
structure MergePolicy where
  coercion : Coercion := Coercion.standard
  options : MergeSettings := {}

namespace MergePolicy

def describe (r : MergePolicy) : String :=
  Text.record "Reconciler" [("options", r.options.describe)]

/-- The container of a shape, built from the values of a list in their order. -/
def containerOf (shape : Shape) (vs : List Value) : Except MergeError Container :=
  match Container.ofValues? shape vs with
  | some c => .ok c
  | none => .error (.unsupportedKind shape.name)

/-- The values in the declared type; the first that is refused fails the whole. -/
def convertAll (r : MergePolicy) (element : ElementType) :
    List Value → Except MergeError (List Value)
  | [] => .ok []
  | v :: vs =>
    match r.coercion element v with
    | .error e => .error (.coercionFailure e)
    | .ok w =>
      match convertAll r element vs with
      | .error e => .error e
      | .ok ws => .ok (w :: ws)

/-- Whether repetitions across the two sides are kept. -/
def keepsRepetitions (r : MergePolicy) (shape : Shape) : Bool :=
  r.options.listMerge == .append && (shape == .list || shape == .vector)

/-- Coerced current values followed by coerced new ones. -/
def combined (r : MergePolicy) (shape : Shape) (current new : List Value) : List Value :=
  if r.keepsRepetitions shape then current ++ new else Value.firstOccurrences (current ++ new)

def fresh (r : MergePolicy) (shape : Shape) (element : ElementType) (new : List Value) :
    Except MergeError Container := do
  let new ← r.convertAll element new
  containerOf shape new

/-- A container of the values of both sides, coerced, the current ones first. -/
def joined (r : MergePolicy) (shape : Shape) (element : ElementType)
    (current new : List Value) : Except MergeError Container := do
  let current ← r.convertAll element current
  let new ← r.convertAll element new
  containerOf shape (r.combined shape current new)

/-- Joins the values of a payload with the current container. -/
def mergeValues (r : MergePolicy) (shape : Shape) (element : ElementType)
    (new : List Value) : Option Container → Except MergeError Container
  | none => if new.isEmpty then containerOf shape [] else r.fresh shape element new
  | some current =>
    if new.isEmpty then
      if current.hasShape shape then .ok current else containerOf shape current.values
    else if current.isEmpty then r.fresh shape element new
    else r.joined shape element current.values new

/-- Joins values from the store with the current container of a field, in the declared shape.  Maps
are refused before anything else is looked at. -/
def merge (r : MergePolicy) (shape : Shape) (element : ElementType) (new : Payload)
    (current : Option Container) : Except MergeError Container :=
  if shape = .map then .error (.unsupportedKind shape.name)
  else do
    let new ← new.toValues element
    r.mergeValues shape element new current

/-- What a successful merge reports: that the current container was kept, or the number of values
on both sides and in the result. -/
def mergeEvent (shape : Shape) (element : ElementType) (new : Payload)
    (current : Option Container) (merged : Container) : Event :=
  let new := match new.toValues element with
    | .ok vs => vs
    | .error _ => []
  let kept := new.isEmpty && current.any fun c => c.hasShape shape
  if kept then .currentKept shape.name merged.length
  else .merged shape.name element.name new.length ((current.map Container.length).getD 0)
    merged.length

def mergeEvents (shape : Shape) (element : ElementType) (new : Payload)
    (current : Option Container) : Except MergeError Container → List Event
  | .ok merged => [mergeEvent shape element new current merged]
  | .error _ => []

end MergePolicy

end ObjectGraph
