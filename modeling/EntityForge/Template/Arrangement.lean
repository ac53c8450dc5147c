import EntityForge.Template.Argument
import EntityForge.Text.Case

/-!
# Arrangements of items

Items are sorted, freed from repetitions, gathered under a key or cut into parts. Where texts are
compared, the case of their letters may be left out of account.
-/

namespace EntityForge.Template

/-! ### Order -/

/-- A value as it is compared; the case of letters does not count unless it `matters`. -/
def foldedCase (matters : Bool) (v : Value) : Value :=
  match v with
  | .text s _ => if matters then v else .ofString (String.ofList (Text.lowerText s.toList))
  | v => v

/-- The order of two values, which may ignore the case of letters. -/
def orderedBy (caseMatters : Bool) (a b : Value) : Ordering :=
  Value.order (foldedCase caseMatters a) (foldedCase caseMatters b)

/-- The order of two lists of keys, of which the first that differ count. -/
def orderedByAll (caseMatters : Bool) : List Value → List Value → Ordering
  | a :: as, b :: bs => (orderedBy caseMatters a b).then (orderedByAll caseMatters as bs)
  | _, _ => .eq

/-- Items in the order of their keys, or the other way round. -/
def sorted (caseMatters reversed : Bool) (items : List (List Value × Value)) : List Value :=
  let inOrder := items.mergeSort fun a b => orderedByAll caseMatters a.1 b.1 != .gt
  let values := inOrder.map (·.2)
  if reversed then values.reverse else values

/-- The first of the least items or the last of the greatest ones. -/
def extreme (greatest : Bool) : List Value → Value
  | [] => .undefined
  | v :: rest => rest.foldl (fun best w =>
    let o := Value.order w best
    if (if greatest then o != .lt else o == .lt) then w else best) v

/-! ### Repetitions and groups -/

/-- The items whose key has not come before. -/
def distinct : List Value → List (Value × Value) → List Value
  | _, [] => []
  | seen, (key, v) :: rest =>
    if seen.any fun k => Value.order k key == .eq then distinct seen rest
    else v :: distinct (key :: seen) rest

/-- Items in groups of neighbours with one key, which for a group is that of its last item. -/
def grouped (caseMatters : Bool) : List (Value × Value) → List (Value × List Value)
  | [] => []
  | (key, v) :: rest =>
    match rest, grouped caseMatters rest with
    | (next, _) :: _, (k, vs) :: groups =>
      if orderedBy caseMatters key next == .eq then (k, v :: vs) :: groups
      else (key, [v]) :: (k, vs) :: groups
    | _, groups => (key, [v]) :: groups

/-! ### Parts -/

/-- A list in parts of one length, the last one filled up with a value. -/
def batches (count : Nat) (filler : Option Value) : Nat → List Value → List Value
  | 0, _ => []
  | _, [] => []
  | n + 1, items =>
    let part := items.take count
    let part := match filler with
      | some v => part ++ List.replicate (count - part.length) v
      | none => part
    .list part :: batches count filler n (items.drop count)

/-- A list in a number of parts, the first ones one longer than the others if the items do not
divide evenly; the others get a further value. -/
def slices (count : Nat) (filler : Option Value) (items : List Value) : List Value :=
  let short := items.length / count
  let more := items.length % count
  (List.range count).map fun i =>
    let start := i * short + min i more
    let part := (items.drop start).take (short + if i < more then 1 else 0)
    .list (if more ≤ i then part ++ filler.toList else part)

end EntityForge.Template
