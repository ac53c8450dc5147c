import EntityForge.Decimal.Reading
import EntityForge.Java.ClassText
import EntityForge.Template.Arrangement
import EntityForge.Template.Format
import EntityForge.Template.Test

/-!
# Filters of templates

A filter makes a value of a value and of further values. The filter `map` applies another filter to
each item of a list.
-/

namespace EntityForge.Template

open Taking

/-! ### Texts -/

/-- Whether a character of the first 128 is neither a letter, a digit nor a blank. -/
def isAsciiPunctuation (c : Char) : Bool :=
  '!' ≤ c && c ≤ '~' && !c.isAlphanum

/-- A text with each word starting in the upper case. `start` says whether a word starts. -/
def titled (start : Bool) : List Char → List Char
  | [] => []
  | c :: cs =>
    if isAsciiPunctuation c || Text.isBlank c then c :: titled true cs
    else (if start then Text.upper c else Text.lower c) ++ titled false cs

/-- A text with its first character in the upper case and the others in the lower case. -/
def capitalized : List Char → List Char
  | [] => []
  | c :: cs => Text.upper c ++ Text.lowerText cs

/-- A text with every occurrence of a part replaced, from the left. -/
def replaced (part new : List Char) : Nat → List Char → List Char
  | _, [] => if part.isEmpty then new else []
  | 0, cs => cs
  | n + 1, c :: cs =>
    if part.isEmpty then new ++ c :: replaced part new n cs
    else if part.isPrefixOf (c :: cs) then new ++ replaced part new n ((c :: cs).drop part.length)
    else c :: replaced part new n cs

/-- A text cut at blanks. -/
def words (cs : List Char) : List String :=
  ((cs.splitBy fun a b => Text.isBlank a == Text.isBlank b).filter
    (!·.all Text.isBlank)).map String.ofList

/-- A text cut at blanks into no more than a number of parts, of which the last is the rest from its
first character on, or all of a text that holds only blanks. -/
def wordsUpTo : Nat → List Char → List String
  | 0, cs => if cs.isEmpty then [] else [String.ofList cs]
  | n + 1, cs =>
    let start := cs.dropWhile Text.isBlank
    if start.isEmpty then (if cs.isEmpty then [] else [String.ofList cs])
    else if n = 0 then [String.ofList start]
    else
      let word := start.takeWhile (!Text.isBlank ·)
      let rest := start.drop word.length
      if rest.isEmpty then [String.ofList word] else String.ofList word :: wordsUpTo n rest

/-- A text cut at a separator, which may be empty: then it is found around each character. -/
def cutAt (separator : String) (s : String) : List String :=
  if separator = "" then [""] ++ s.toList.map Char.toString ++ [""] else s.splitOn separator

/-- A text cut at a separator into no more than a number of parts, of which the last is the rest. -/
def cutAtUpTo (separator : String) (most : Nat) (s : String) : List String :=
  let all := cutAt separator s
  if most < all.length then
    all.take (most - 1) ++ [separator.intercalate (all.drop (most - 1))]
  else all

/-- The lines of a text without their ends; a carriage return is part of the end before a line
feed. -/
def linesOf (s : String) : List String :=
  let pieces := s.splitOn "\n"
  let shorter (line : String) := if line.endsWith "\r" then (line.dropEnd 1).toString else line
  let last := pieces.getLast?.getD ""
  pieces.dropLast.map shorter ++ (if last = "" then [] else [last])

/-- A text without a line end at its end. -/
def withoutLineEnd (s : String) : String :=
  let cs := s.toList
  if cs.getLast? = some '\n' then
    let cs := cs.dropLast
    String.ofList (if cs.getLast? = some '\r' then cs.dropLast else cs)
  else s

/-- A text with blanks before its lines. -/
def indented (s : String) (width : Nat) (first blank : Bool) : String :=
  let margin := String.ofList (List.replicate width ' ')
  let shift (line : String) := if line = "" && !blank then line else margin ++ line
  match (withoutLineEnd s).splitOn "\n" with
  | [] => ""
  | line :: rest =>
    withoutLineEnd (String.join
      (((if first then shift line else line) :: rest.map shift).map (· ++ "\n")))

/-! ### Items -/

/-- The items of a value, for a filter that makes a list. -/
def listed (v : Value) : Except Error (List Value) :=
  Value.because v.iterated (.invalid "cannot convert value to list")

/-- The number of items of a value or of characters of a text. -/
def length? : Value → Option Nat
  | .text s _ => some s.length
  | v => v.knownLength?

/-- The members of a map as pairs. -/
def pairsOf (v : Value) (e : Error) : Except Error (List (Value × Value)) :=
  match v.pairs? with
  | some pairs => return pairs
  | none => throw e

/-- A value the other way round. -/
def reversed (v : Value) : Except Error Value :=
  match v with
  | .undefined | .omitted | .none => return v
  | .text s _ => return .ofString (String.ofList s.toList.reverse)
  | v =>
    match v.contents? with
    | some items => return .iterable items.reverse v.knownLength?.isSome
    | none => throw (.invalid s!"cannot reverse values of type {v.kind.words}")

/-- All maps in one, all lists in one, or the items of all values. -/
def chained (values : List Value) : Except Error Value :=
  if values.all (·.kind == .map) then
    return .ofPairs (values.flatMap fun v => v.pairs?.getD [])
  else do
    let items := (← values.mapM Value.iterated).flatten
    return if values.all (·.kind == .sequence) then .list items else .iterable items false

/-- The first items of all values as a list, then the second ones, as long as each has one. -/
def zipped (values : List Value) : Except Error Value := do
  let lists ← values.mapM fun v =>
    match v.items? with
    | some items => return items
    | none => throw (Error.invalid s!"zip filter argument must be iterable, got {v.kind.words}")
  let shortest := (lists.map List.length).min?.getD 0
  return .iterable ((List.range shortest).map fun i => .list (lists.filterMap (·[i]?))) false

/-- The text of items with a separator between them, as long as something stands before it. -/
def joined (separator : String) (items : List Value) : String :=
  items.foldl (fun done v => (if done = "" then done else done ++ separator) ++ v.shown) ""

/-- Whether a value passes the test of a name, or counts as true. -/
def passesOr (name : Option String) (args : List Value) (v : Value) : Except Error Bool :=
  match name with
  | some n => passes n (v :: args)
  | none => return v.truth

/-- The items that pass a test, or those that do not; the test may be of a member of the item. -/
def selected (keep byMember : Bool) : Taking Value := do
  let v ← any
  let path ← if byMember then some <$> text else pure none
  let name ← text?
  let args ← rest
  if name.any (!testNames.contains ·) then throw { kind := .unknownTest }
  let chosen (v : Value) : Except Error Bool := do
    let w ← path.elim (pure v) v.atPath
    return (← passesOr name args w) == keep
  return .list (← ((do (← v.iterated).filterM chosen) : Except Error (List Value)))

/-! ### Numbers -/

/-- The sum of numbers. -/
def total (items : List Value) : Except Error Value :=
  items.foldlM (fun sum v =>
    if v.isMissing then throw .undefinedValue
    else if v.isUndefined then return sum
    else if v.kind = .number then Value.arithmetic .add sum v
    else throw (.invalid s!"can only sum numbers, got {v.kind.words}")) (.ofInt 0)

/-- A number without its sign. -/
def absolute (v : Value) : Except Error Value :=
  match v with
  | .integer n unsigned =>
    if !unsigned && n == -(Word.count 127 : Nat) then throw (.invalid "overflow on abs")
    else return .integer n.natAbs unsigned
  | .float x => return .float x.abs
  | _ => throw (.invalid "cannot get absolute value")

/-- A power of ten, by repeated squaring of `base`. -/
def powerOf (base : Float) : Nat → Nat → Float → Float
  | 0, _, r => r
  | fuel + 1, n, r =>
    let r := if n % 2 = 1 then r * base else r
    if n / 2 = 0 then r else powerOf (base * base) fuel (n / 2) r

/-- A power of ten. -/
def tenTo (n : Int) : Float :=
  let r := powerOf 10.0 64 n.natAbs 1.0
  if n < 0 then 1.0 / r else r

/-- A number with some digits behind the point. -/
def rounded (v : Value) (precision : Int) : Except Error Value :=
  match v with
  | .float x =>
    let scale := tenTo precision
    return .float ((x * scale).round / scale)
  | .integer .. => return v
  | _ => throw (.invalid s!"cannot round value ({v.kind.words})")

/-- A value as a whole number. -/
def wholeNumber (v : Value) : Except Error Value :=
  match v with
  | .undefined | .omitted => throw .undefinedValue
  | .none => return .ofInt 0
  | .bool b => return .ofNat (if b then 1 else 0)
  | .integer .. => return v
  | .float x => return .ofInt (Exact.wholeNumber x)
  | .text s _ =>
    match (Text.integer? s.toList).filter fun n => decide (Word.Signed 127 n) with
    | some n => return .ofInt n
    | none =>
      match Decimal.signed? s.toList with
      | some x => return .ofInt (Exact.wholeNumber x)
      | none => throw (.invalid "invalid float literal")
  | _ => throw (.invalid s!"cannot convert {v.kind.words} to integer")

/-- A value as a double. -/
def doubleNumber (v : Value) : Except Error Value :=
  match v with
  | .undefined | .omitted => throw .undefinedValue
  | .none => return .float 0.0
  | .text s _ =>
    match Decimal.signed? s.toList with
    | some x => return .float x
    | none => throw (.invalid "invalid float literal")
  | _ =>
    match v.asFloat? false with
    | some x => return .float x
    | none => throw (.invalid s!"cannot convert {v.kind.words} to float")

/-- Another value for one that is none or, if so wanted, does not count as true. -/
def replacedBy (v : Value) (args : List Value) : Except Error Value :=
  match args with
  | [] => return if v.isUndefined then .ofString "" else v
  | [other] => return if v.isUndefined then other else v
  | [other, lax] => return if v.isUndefined || (lax.truth && !v.truth) then other else v
  | _ => throw { kind := .tooManyArguments }

/-! ### The filters -/

/-- A filter of a text. -/
def onText (f : List Char → List Char) : Taking Value := do
  return .ofString (String.ofList (f (← text).toList))

/-- A filter of a text that does not change whether it needs escaping. -/
def onTextInPlace (f : List Char → List Char) : Taking Value := do
  let v ← value
  let s ← (asText v : Except Error String)
  let changed := String.ofList (f s.toList)
  return match v with
    | .text _ safe => .text changed safe
    | _ => .ofString changed

/-- A filter of a list. -/
def onItems (f : List Value → Value) : Taking Value := do
  return f (← (listed (← any) : Except Error (List Value)))

/-- A filter of a list into a number of parts. -/
def inParts (f : Nat → Option Value → List Value → List Value) : Taking Value := do
  let v ← any
  let n ← count
  let filler ← value?
  if n = 0 then throw (.invalid "count cannot be 0")
  return .list (f n filler (← (v.iterated : Except Error (List Value))))

/-- The filters of texts and single values by name. -/
def scalarFilter? : String → Option (Taking Value)
  | "upper_first" => some do return .ofString (Java.accessorSuffix (← text))
  | "safe" => some do return .text (← text) true
  | "escape" | "e" => some do return .text (← any).escaped true
  | "lower" => some (onTextInPlace Text.lowerText)
  | "upper" => some (onTextInPlace Text.upperText)
  | "title" => some (onText (titled true))
  | "capitalize" => some (onTextInPlace capitalized)
  | "replace" => some do
    let s ← text
    let part ← text
    let new ← text
    return .ofString (String.ofList (replaced part.toList new.toList (s.length + 1) s.toList))
  | "trim" => some do
    let s ← text
    match ← text? with
    | none => return .ofString (Text.trim s)
    | some set =>
      let out (cs : List Char) := cs.dropWhile set.toList.contains
      return .ofString (String.ofList (out (out s.toList).reverse).reverse)
  | "split" => some do
    let s ← text
    let separator ← text?
    let most ← inForm? (asInteger .i64)
    let parts := match separator, most.filter (0 ≤ ·) with
      | none, none => words s.toList
      | none, some n => wordsUpTo (n.toNat + 1) s.toList
      | some sep, none => cutAt sep s
      | some sep, some n => cutAtUpTo sep (n.toNat + 1) s
    return .list (parts.map Value.ofString)
  | "lines" => some do return .list ((linesOf (← text)).map Value.ofString)
  | "indent" => some do
    let options ← named
    let s ← text
    let width ← inForm? (asInteger .usize)
    let first ← inForm? asTruth
    let blank ← inForm? asTruth
    let given ← (option? options "width" (asInteger .usize) : Except Error (Option Int))
    let first := first.getD (← (flag options "first" : Except Error Bool))
    let blank := blank.getD (← (flag options "blank" : Except Error Bool))
    onlyNamed options ["width", "first", "blank"]
    return .ofString (indented s ((width.or given).getD 4).toNat first blank)
  | "format" => some do
    let s ← exactText
    return .ofString (← (filled s (← rest) : Except Error String))
  | "default" | "d" => some do
    let v ← any
    (replacedBy v (← rest) : Except Error Value)
  | "round" => some do
    let v ← any
    (rounded v ((← inForm? (asInteger .i32)).getD 0) : Except Error Value)
  | "abs" => some do (absolute (← any) : Except Error Value)
  | "int" => some do (wholeNumber (← any) : Except Error Value)
  | "float" => some do (doubleNumber (← any) : Except Error Value)
  | "string" => some do
    let v ← any
    return match v with
      | .text .. => v
      | _ => .ofString v.shown
  | "bool" => some do
    let v ← any
    if v.isMissing then throw .undefinedValue
    return .bool v.truth
  | "pprint" => some do return .ofString ((← any).spread "")
  | "attr" => some do
    let v ← any
    (v.item (← any) : Except Error Value)
  | _ => none

/-- The filters of lists and maps by name. -/
def listFilter? : String → Option (Taking Value)
  | "length" | "count" => some do
    let v ← any
    match length? v with
    | some n => return .ofNat n
    | none => throw (.invalid s!"cannot calculate length of value of type {v.kind.words}")
  | "items" => some do
    let pairs ← (pairsOf (← any) (.invalid "cannot convert value into pairs")
      : Except Error (List (Value × Value)))
    return .ofItems (pairs.map fun (key, w) => .list [key, w])
  | "dictsort" => some do
    let options ← named
    let pairs ← (pairsOf (← any) (.invalid "cannot convert value into pair list")
      : Except Error (List (Value × Value)))
    let criterion ← (option? options "by" asExactText : Except Error (Option String))
    if let some other := criterion.filter fun s => s != "key" && s != "value" then
      throw (.invalid s!"invalid value '{other}' for 'by' parameter")
    let caseMatters ← (flag options "case_sensitive" : Except Error Bool)
    let descending ← (flag options "reverse" : Except Error Bool)
    onlyNamed options ["by", "reverse", "case_sensitive"]
    return .list (sorted caseMatters descending (pairs.map fun (key, w) =>
      ([if criterion == some "value" then w else key], .list [key, w])))
  | "reverse" => some do (reversed (← any) : Except Error Value)
  | "join" => some do
    let v ← any
    let separator ← text?
    if v.isUndefined || v.kind == .none then return .ofString ""
    let items ← (Value.because v.iterated
      (.invalid s!"cannot join value of type {v.kind.words}") : Except Error (List Value))
    return .ofString (joined (separator.getD "") items)
  | "first" => some do
    match ← any with
    | .text s _ => return (Value.characters s).head?.getD .undefined
    | v =>
      match v.contents? with
      | some items => return items.head?.getD .undefined
      | none => throw (.invalid "cannot get first item from value")
  | "last" => some do
    match ← any with
    | .text s _ => return (Value.characters s).getLast?.getD .undefined
    | v =>
      if v.isListed then return (v.contents?.bind List.getLast?).getD .undefined
      else throw (.invalid "cannot get last item from value")
  | "min" => some (onItems (extreme false))
  | "max" => some (onItems (extreme true))
  | "sort" => some do
    let options ← named
    let items ← (listed (← any) : Except Error (List Value))
    let caseMatters ← (flag options "case_sensitive" : Except Error Bool)
    let path ← (option? options "attribute" asExactText : Except Error (Option String))
    let descending ← (flag options "reverse" : Except Error Bool)
    onlyNamed options ["attribute", "reverse", "case_sensitive"]
    let keys (v : Value) : List Value := match path with
      | some p => (p.splitOn ",").map fun part => v.atPathOr part .undefined
      | none => [v]
    return .list (sorted caseMatters descending (items.map fun v => (keys v, v)))
  | "unique" => some do
    let options ← named
    let v ← any
    let path ← (option? options "attribute" asExactText : Except Error (Option String))
    let caseMatters ← (flag options "case_sensitive" : Except Error Bool)
    onlyNamed options ["attribute", "case_sensitive"]
    let items ← (v.iterated : Except Error (List Value))
    let key (v : Value) := foldedCase caseMatters (path.elim v (v.atPathOr · .undefined))
    return .list (distinct [] (items.map fun v => (key v, v)))
  | "groupby" => some do
    let options ← named
    let v ← any
    let inPlace ← inForm? asExactText
    let other := (lookup? options "default").getD .undefined
    let caseMatters ← (flag options "case_sensitive" : Except Error Bool)
    let path ← match inPlace with
      | some p => pure p
      | none =>
        match ← (option? options "attribute" asExactText : Except Error (Option String)) with
        | some p => pure p
        | none => throw { kind := .missingArgument }
    onlyNamed options ["attribute", "default", "case_sensitive"]
    let items ← ((if v.isUndefined then pure [] else v.iterated) : Except Error (List Value))
    let keyed := items.map fun v => (v.atPathOr path other, v)
    let inOrder := keyed.mergeSort fun a b => orderedBy caseMatters a.1 b.1 != .gt
    return .list ((grouped caseMatters inOrder).map fun (key, vs) => .group key vs)
  | "list" => some (onItems .list)
  | "batch" => some (inParts fun n filler items => batches n filler items.length items)
  | "slice" => some (inParts slices)
  | "sum" => some do
    let v ← any
    ((do total (← v.iterated)) : Except Error Value)
  | "select" => some (selected true false)
  | "reject" => some (selected false false)
  | "selectattr" => some (selected true true)
  | "rejectattr" => some (selected false true)
  | "chain" => some do
    let v ← any
    (chained (v :: (← rest)) : Except Error Value)
  | "zip" => some do
    let v ← any
    (zipped (v :: (← rest)) : Except Error Value)
  | _ => none

/-- The items of a list, each replaced by its member of a path. -/
def mappedMembers (path : Value) (default : Value) (items : List Value) :
    Except Error (List Value) :=
  items.mapM fun v =>
    let found := match path with
      | .text p _ => v.atPath p
      | key => v.item key
    match found with
    | .ok w => return if w.isUndefined then default else w
    | .error e => if default.isUndefined then throw e else return default

/-- The filter of a name applied to its arguments. `n` bounds how often one filter hands on to
another. -/
def filtered (name : String) : Nat → List Value → Except Error Value
  | 0, _ => throw (.of .unknownFilter s!"filter {name} is unknown")
  | n + 1, args =>
    match (scalarFilter? name).or (listFilter? name) with
    | some f => f.run args
    | none =>
      if name ≠ "map" then throw (.of .unknownFilter s!"filter {name} is unknown")
      else
        match args with
        | [] => throw { kind := .missingArgument }
        | v :: args => do
          let (args, options) := match args.getLast? with
            | some (.named pairs) => (args.dropLast, pairs)
            | _ => (args, [])
          match lookup? options "attribute", args with
          | some path, [] =>
            onlyNamed options ["attribute", "default"]
            let default := (options.lookup "default").getD .undefined
            return .list (← mappedMembers path default (← v.iterated))
          | some _, _ => throw { kind := .tooManyArguments }
          | none, [] => throw (.invalid "filter name is required")
          | none, .text other _ :: args =>
            unless filterNames.contains other do throw { kind := .unknownFilter }
            let items ← (← v.iterated).mapM fun w => filtered other n (w :: args)
            return .list items
          | none, _ => throw (.invalid "filter name must be a string")

/-- The filter of a name applied to its arguments. -/
def applyFilter (name : String) (args : List Value) : Except Error Value :=
  filtered name (args.length + 1) args

end EntityForge.Template
