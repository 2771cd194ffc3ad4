import PointBridge.Text.Split
import PointBridge.Trace.Directive
import PointBridge.Trace.Interest

/-!
# Filters

A filter is a list of directives. A text becomes a filter in two ways: `Filter.strict` refuses the
text if one piece is refused, `Filter.lenient` leaves such pieces out and, if nothing is left, lets
errors pass.

The directives without a span and without a condition on a value decide about an event by its
target and its fields: the most specific of those that apply sets the ceiling. The directives with
a span or a condition on a field watch spans: while a watched span is entered, every event passes
up to the highest ceiling of the directives that the span meets.
-/

namespace PointBridge.Trace

/-! ## What directives apply to -/

/-- A span as a filter sees it. Its fields are texts. -/
structure SpanView where
  target : String
  name : String
  fields : List (String × String)

namespace Directive

/-- Whether the directive has a condition on a value. -/
def hasValue (d : Directive) : Bool := d.field.any (·.value.isSome)

/-- Whether the directive decides about events by themselves. -/
def isPlain (d : Directive) : Bool := d.span.isNone && !d.hasValue

/-- Whether the directive watches spans. -/
def isWatch (d : Directive) : Bool := d.span.isSome || d.field.isSome

/-- Whether the directive applies to a target. -/
def reaches (d : Directive) (target : String) : Bool :=
  d.target.all fun start => start.toList.isPrefixOf target.toList

/-- Whether the directive applies to an event with a target and fields of the given names. -/
def covers (d : Directive) (target : String) (fields : List String) : Bool :=
  d.reaches target && d.field.all fun f => fields.contains f.name

/-- Whether the directive applies to a span whatever the values of its fields are. -/
def watches (d : Directive) (s : SpanView) : Bool :=
  d.isWatch && d.reaches s.target && d.span.all (· == s.name) &&
    d.field.all fun f => (s.fields.lookup f.name).isSome

/-- Whether the values of a span's fields are as the directive asks. -/
def accepts (d : Directive) (s : SpanView) : Bool :=
  d.field.all fun f => f.value.all fun v => (s.fields.lookup f.name).any v.accepts

/-- Whether two directives differ at most in what they let pass. -/
def alike (d e : Directive) : Bool := d.target = e.target && d.span = e.span && d.field = e.field

/-- Whether the second of two plain directives that apply to one target counts before the first:
its target is longer, or they have one target and it asks for a field when the other does not or
for the field with the greater name, or they are alike, as the later one counts. -/
def yields (d e : Directive) : Bool :=
  let size (d : Directive) : Nat := d.target.elim 0 (·.length + 1)
  size d < size e || size d == size e &&
    match d.field, e.field with
    | none, _ => true
    | some _, none => false
    | some f, some g => f.name ≤ g.name

end Directive

/-- What may pass, as a list of directives. -/
abbrev Filter := List Directive

namespace Filter

/-! ## Reading -/

/-- The pieces of a filter text: those between commas that are not empty. -/
def pieces (text : String) : List (List Char) :=
  (Text.splitAtEach ',' text.toList).filter (· ≠ [])

/-- Read a filter text, up to the first piece that cannot be read. -/
def strict (text : String) : Except ReadError Filter := (pieces text).mapM Directive.read

/-- The filter that lets errors of every target pass. -/
def errorsOnly : Filter := [{ ceiling := some .error }]

/-- The directive of a piece, if the piece is not refused. -/
def accepted (piece : List Char) : Except Text.CutError (Option Directive) :=
  match Directive.read piece with
  | .ok d => .ok (some d)
  | .error (.refused _) => .ok none
  | .error (.cut e) => .error e

/-- Read a filter text without the pieces that are refused. -/
def lenient (text : String) : Except Text.CutError Filter := do
  match (← (pieces text).mapM accepted).reduceOption with
  | [] => return errorsOnly
  | directives => return directives

/-! ## Events -/

/-- The better of the best directive so far and the next one. -/
def refine (best : Option Directive) (next : Directive) : Option Directive :=
  if best.all (·.yields next) then some next else best

/-- The ceiling of the most specific plain directive among those that apply. -/
def ceilingOf (filter : Filter) (applies : Directive → Bool) : Ceiling :=
  ((filter.filter fun d => d.isPlain && applies d).foldl refine none).bind (·.ceiling)

/-- The ceiling for events with a target and fields of the given names. -/
def ceiling (filter : Filter) (target : String) (fields : List String) : Ceiling :=
  filter.ceilingOf (·.covers target fields)

/-- Whether an event passes by its level, its target and the names of its fields. -/
def allows (filter : Filter) (target : String) (fields : List String) (level : Level) : Bool :=
  (filter.ceiling target fields).allows level

/-- The levels that pass for events of a target without fields, the most severe first. -/
def levels (filter : Filter) (target : String) : List Level :=
  Level.all.filter (filter.allows target [])

/-! ## Spans -/

/-- The directives without those that have a later one alike. -/
def latest : Filter → Filter
  | [] => []
  | d :: rest => if rest.any d.alike then latest rest else d :: latest rest

/-- The ceiling for events inside of a span. -/
def inner (filter : Filter) (s : SpanView) : Ceiling :=
  Ceiling.highest
    (((latest filter).filter fun d => d.watches s && d.accepts s).map (·.ceiling))

/-- The ceiling above which nothing is even looked at. It lets everything pass if values matter,
since these are not known beforehand. -/
def reach (filter : Filter) : Ceiling :=
  if filter.any (·.hasValue) then some .trace else Ceiling.highest (filter.map (·.ceiling))

/-- Whether one of the plain directives, whose conditions on fields are for events only, lets a
span of a level pass. -/
def allowsSpan (filter : Filter) (level : Level) (s : SpanView) : Bool :=
  (filter.ceilingOf (·.reaches s.target)).allows level

/-- The interest in spans of a level and a kind: they pass if a directive watches them, whatever
its ceiling is, or if the plain directives let them pass. -/
def interest (filter : Filter) (level : Level) (s : SpanView) : Interest :=
  if filter.any (·.watches s) || filter.allowsSpan level s then .always
  else if filter.any (·.isWatch) then .sometimes
  else .never

/-- Whether a span of a level passes when it is looked at by itself. Then a directive that watches
it counts only if the ceiling of one that watches any spans lets the level pass. -/
def admits (filter : Filter) (level : Level) (s : SpanView) : Bool :=
  (Ceiling.highest ((filter.filter (·.isWatch)).map (·.ceiling))).allows level &&
    filter.any (·.watches s) ||
  filter.allowsSpan level s

end Filter

end PointBridge.Trace
