import EntityForge.Decimal.Reading
import EntityForge.Journal.Record
import EntityForge.Pattern.Reading

/-!
# Filters

A filter is a list of directives. A directive sets a threshold for the records of the parts of the
program whose names it begins; the directive that says most about a record decides on it, and a
record that none speaks of is left out. A directive may also name a span: it then lets through what
happens inside such spans, up to its threshold, whatever the others say. A span shows on a record
only if the filter lets the span itself through.

Filters are written as directives with commas between them, `part[span]=level`, each piece but one
left out at will. A value of a detail is written as a pattern, if it is no truth value or number.
-/

namespace EntityForge.Journal

/-- What a directive wants a value to be. -/
inductive Demand
  /-- A truth value. -/
  | flag (b : Bool)
  /-- A number that details can have. -/
  | count (n : Nat)
  /-- Some other number, as it is written. -/
  | number (text : String)
  /-- A text that ends with the first match of a pattern, which is kept as it is written. -/
  | pattern (p : Pattern) (text : String)
  deriving DecidableEq, Repr

/-- A detail that a span must have, and what its value must be if that matters. -/
structure Wanted where
  /-- The name of the detail. -/
  name : String
  /-- What its value must be, if it matters. -/
  demand : Option Demand
  deriving DecidableEq, Repr

/-- A directive. -/
structure Directive where
  /-- What the names of the parts begin with, if that matters. -/
  target : Option String := none
  /-- The name of the span, if it matters. -/
  span : Option String := none
  /-- The details that must be there. -/
  wanted : List Wanted := []
  /-- What is let through. -/
  threshold : Threshold := some .trace
  deriving DecidableEq, Repr

/-- A filter. -/
structure Filter where
  /-- The directives. -/
  directives : List Directive
  deriving DecidableEq, Repr

namespace Directive

/-- Whether a directive speaks of spans. -/
def isSpanwise (d : Directive) : Bool :=
  d.span.isSome || !d.wanted.isEmpty

/-- Whether a directive speaks of records by themselves. -/
def isPlain (d : Directive) : Bool :=
  d.span.isNone && d.wanted.all (·.demand.isNone)

/-- Whether a directive speaks of a part of the program. -/
def covers (d : Directive) (target : String) : Bool :=
  d.target.all fun t => t.toList.isPrefixOf target.toList

/-- Whether all details that a directive wants are there, whatever their values. -/
def findsNames (d : Directive) (details : Details) : Bool :=
  d.wanted.all fun w => details.any (·.1 == w.name)

/-- Whether two directives speak of the same. -/
def sameScope (d e : Directive) : Bool :=
  d.target == e.target && d.span == e.span && d.wanted == e.wanted

/-- How much a directive says: the length of its target, then the number of details. -/
def weight (d : Directive) : Nat × Nat :=
  (d.target.elim 0 (·.length + 1), d.wanted.length)

/-- Whether a directive says at least as much as another. -/
def outweighs (d e : Directive) : Bool :=
  e.weight.1 < d.weight.1 || (e.weight.1 == d.weight.1 && e.weight.2 ≤ d.weight.2)

/-- Whether a directive speaks of a span. -/
def speaksOf (d : Directive) (s : Span) : Bool :=
  d.isSpanwise && d.covers s.target && d.span.all (· == s.name) && d.findsNames s.details

end Directive

/-- Whether the value of a detail is what is wanted. -/
def Demand.meets : Demand → Detail → Bool
  | flag b, .flag c => b == c
  | count m, .number n => m == n
  | pattern p _, .plain text | pattern p _, .quoted text => p.matchesEnd text
  | _, _ => false

/-- Whether a span has the details that a directive wants, with their values. -/
def Directive.finds (d : Directive) (s : Span) : Bool :=
  d.wanted.all fun w =>
    s.details.any fun (name, detail) => name == w.name && w.demand.all (·.meets detail)

namespace Filter

/-- The filter with a directive, which takes the place of one that speaks of the same. -/
def insert (d : Directive) (f : Filter) : Filter :=
  ⟨f.directives.filter (fun e => !e.sameScope d) ++ [d]⟩

/-- The filter of directives in order. Without any, errors are let through. -/
def ofList (ds : List Directive) : Filter :=
  if ds.isEmpty then ⟨[{ threshold := some .error }]⟩
  else ds.foldl (fun f d => f.insert d) ⟨[]⟩

/-- The directive that decides on what a part of the program makes, by itself: of those that speak
of it, one that says most. -/
def decider? (f : Filter) (speaks : Directive → Bool) : Option Directive :=
  (f.directives.filter fun d => d.isPlain && speaks d).foldl
    (fun best d => if best.all d.outweighs then some d else best) none

/-- What the filter lets through at most. -/
def ceiling (f : Filter) : Threshold :=
  if f.directives.any (·.wanted.any (·.demand.isSome)) then some .trace
  else f.directives.foldl (fun t d => t.max d.threshold) none

/-- Whether a span is let through, inside spans that let something through. -/
def admitsSpan (f : Filter) (inner : Threshold) (s : Span) : Bool :=
  f.ceiling.admits s.level &&
    (f.directives.any (·.speaksOf s) || inner.admits s.level ||
      (f.decider? fun d => d.covers s.target).any (·.threshold.admits s.level))

/-- What the directives let through inside a span. -/
def within (f : Filter) (s : Span) : Threshold :=
  (f.directives.filter fun d => d.speaksOf s && d.finds s).foldl (fun t d => t.max d.threshold) none

/-- The spans that show, and what they let through. -/
def admittedSpans (f : Filter) (inner : Threshold) : List Span → List Span × Threshold
  | [] => ([], inner)
  | s :: rest =>
    if f.admitsSpan inner s then
      let (shown, inner') := f.admittedSpans (inner.max (f.within s)) rest
      (s :: shown, inner')
    else f.admittedSpans inner rest

/-- The record as the filter shows it, if it lets the record through. -/
def shown? (f : Filter) (r : Record) : Option Record :=
  let (spans, inner) := f.admittedSpans none r.spans
  let speaks (d : Directive) :=
    d.covers r.target && d.findsNames (("message", .plain r.message) :: r.details)
  if f.ceiling.admits r.level &&
      (inner.admits r.level || (f.decider? speaks).any (·.threshold.admits r.level)) then
    some { r with spans }
  else none

end Filter

/-! ### Reading -/

/-- The threshold of a place that is written as a numeral. -/
def Threshold.ofNumeral? (text : String) : Option Threshold :=
  (Text.natural? text.toList).bind fun n => if n ≤ 5 then some (ofRank n) else none

/-- The threshold that a text names, by its place or by the name of a level. -/
def Threshold.ofText? (text : String) : Option Threshold :=
  let lower := String.ofList (text.toList.map Char.toLower)
  if lower == "off" then some none
  else (ofNumeral? text).or ((Level.all.find? (·.name == lower)).map some)

/-- The threshold behind the equals sign of a directive; everything, if nothing is there. -/
def Threshold.ofRest? (text : String) : Option Threshold :=
  if text = "" then some (some .trace) else ofText? text

/-- What a text wants a value to be. -/
def Demand.ofText? (text : String) : Option Demand :=
  let cs := text.toList
  match (Text.natural? cs).filter (· < Word.count 64) with
  | some n => some (.count n)
  | none =>
    if text = "true" then some (.flag true)
    else if text = "false" then some (.flag false)
    else if (Decimal.signed? cs).isSome then some (.number text)
    else (Pattern.ofText? text).map (.pattern · text)

/-- A detail that a directive wants, as it is written. What follows a second equals sign is passed
over. -/
def Wanted.ofText? (text : String) : Option Wanted :=
  if text = "" then none
  else
    match text.toList.splitOnP (· == '=') with
    | [] => none
    | [name] => some ⟨String.ofList name, none⟩
    | name :: value :: _ => do
      return ⟨String.ofList name, some (← Demand.ofText? (String.ofList value))⟩

/-- Where the reading of a directive stands. The pieces that have begun are told by where they
began. -/
inductive Stage
  /-- Nothing has been read. -/
  | start
  /-- A level or a target. -/
  | name
  /-- The name of a span. -/
  | span (first : Nat)
  /-- A detail. -/
  | detail (first : Nat)
  /-- Behind the details. -/
  | details
  /-- Behind the span. -/
  | target
  /-- The level behind the equals sign. -/
  | level (first : Nat)
  deriving DecidableEq, Repr

/-- The characters of a text from one place up to another. -/
def slice (text : List Char) (first last : Nat) : String :=
  String.ofList ((text.take last).drop first)

/-- The text from one place up to another, if it is not empty. -/
def slice? (text : List Char) (first last : Nat) : Option String :=
  if first < last then some (slice text first last) else none

/-- Whether a directive can begin with a character. -/
def beginsDirective (c : Char) : Bool :=
  c == '-' || c == ':' || c == '_' || Text.isLetterOrNumber c

/-- What is known of a directive behind one more character, and where its reading then stands. -/
def Directive.step? (text : List Char) (d : Directive) (stage : Stage) (i : Nat) (c : Char) :
    Option (Directive × Stage) :=
  match stage with
  | .start =>
    if c == '[' then some (d, .span (i + 1))
    else if beginsDirective c then some (d, .name) else none
  | .name =>
    if c == '=' then some ({ d with target := some (slice text 0 i) }, .level (i + 1))
    else if c == '[' then some ({ d with target := some (slice text 0 i) }, .span (i + 1))
    else some (d, .name)
  | .span first =>
    if c == ']' then some ({ d with span := some (slice text first i) }, .target)
    else if c == '{' then some ({ d with span := slice? text first i }, .detail (i + 1))
    else some (d, .span first)
  | .detail first =>
    if c == '}' then do
      return ({ d with wanted := d.wanted ++ [← Wanted.ofText? (slice text first i)] }, .details)
    else some (d, .detail first)
  | .details => if c == ']' then some (d, .target) else none
  | .target => if c == '=' then some (d, .level (i + 1)) else none
  | .level first => some (d, .level first)

/-- A directive whose reading has come to the end. A lone level holds for all parts. -/
def Directive.finish? (text : List Char) (d : Directive) : Stage → Option Directive
  | .name =>
    let whole := String.ofList text
    match Threshold.ofText? whole with
    | some threshold => some { d with threshold }
    | none => some { d with target := some whole }
  | .level first =>
    (Threshold.ofRest? (String.ofList (text.drop first))).map ({ d with threshold := · })
  | .target => some d
  | _ => none

/-- A directive as it is written. Blanks at its two ends do not count as characters, but the pieces
are cut out of the text with them. -/
def Directive.ofText? (text : String) : Option Directive := do
  let cs := text.toList
  let places := (Text.trimChars cs).zipIdx
  let (d, stage) ← places.foldlM (fun (d, stage) (c, i) => step? cs d stage i c) ({}, Stage.start)
  d.finish? cs stage

/-- A filter as it is written. Empty pieces are passed over. -/
def Filter.ofText? (text : String) : Option Filter := do
  let pieces := (text.toList.splitOnP (· == ',')).filter (!·.isEmpty)
  return .ofList (← pieces.mapM fun piece => Directive.ofText? (String.ofList piece))

/-- The filter that lets the own parts of the program through up to a threshold. -/
def Filter.own (threshold : Threshold) : Filter :=
  .ofList ({ threshold := some .warn } ::
    ["pdm_cli", "pdm_ingest", "pdm_model", "pdm_report"].map fun part =>
      { target := some part, threshold })

end EntityForge.Journal
