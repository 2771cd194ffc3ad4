import PointBridge.Text.JsonString
import PointBridge.Text.Quoted
import PointBridge.Trace.Config
import PointBridge.Trace.Event

/-!
# Lines of output

A `Notice` is what a subscriber shows: an event, or a moment in the life of a performance span.
`Style.lines` writes it in one of three formats. Times and source positions differ from run to
run, so fixed texts stand for them. In the two formats for readers the parts of a line may be
coloured, each level in its own colour; the third format writes one object a line.
-/

namespace PointBridge.Trace

/-! ## What is shown -/

/-- Something to show. `span` is the name given to the performance span that it belongs to, and
`inside` says whether that span is entered. -/
structure Notice where
  level : Level
  target : String
  message : String
  fields : List Field
  span : Option String
  inside : Bool

/-- The name that all performance spans share. -/
def spanName : String := "perf"

namespace Notice

/-- An event, possibly inside an entered performance span. -/
def ofEvent (e : Event) (span : Option String) : Notice :=
  ⟨e.level, e.target, e.message, e.fields, span, span.isSome⟩

/-- A moment of a performance span. -/
def ofSpan (message : String) (fields : List Field) (name : String) (inside : Bool) : Notice :=
  ⟨.debug, Event.spanTarget, message, fields, some name, inside⟩

/-- The creation of a span. -/
def new (name : String) : Notice := ofSpan "new" [] name false

/-- The entry to a span. -/
def enter (name : String) : Notice := ofSpan "enter" [] name true

/-- The way out of a span. -/
def exit (name : String) : Notice := ofSpan "exit" [] name false

/-- The end of a span, with the times spent inside and outside. -/
def close (name : String) : Notice :=
  ofSpan "close" [⟨"time.busy", .duration⟩, ⟨"time.idle", .duration⟩] name false

end Notice

/-! ## Parts of lines -/

/-- A line of output. -/
inductive Line where
  /-- A line for readers. -/
  | text (s : String)
  /-- An object of JSON. -/
  | object (json : String)
deriving DecidableEq

/-- The text that stands for a time of day. -/
def timePlaceholder : String := "<time>"

/-- The text that stands for a position in the source. -/
def sourcePlaceholder : String := "<source>"

/-- The control sequence that changes the appearance of what follows. -/
def appearance (code : String) : String := "\x1b[" ++ code ++ "m"

/-- A text in a given appearance. -/
def painted (code text : String) : String := appearance code ++ text ++ appearance "0"

/-- The colour of a level. -/
def Level.colour : Level → String
  | error => "31"
  | warn => "33"
  | info => "32"
  | debug => "34"
  | trace => "35"

/-- The name of a level, filled up with blanks in front to five characters. -/
def Level.column (level : Level) : String :=
  String.ofList (List.replicate (5 - level.name.length) ' ') ++ level.name

/-- The value as readers see it. -/
def Value.shown : Value → String
  | .quoted s => Text.quote s
  | v => v.text

/-- The value as JSON. -/
def Value.json : Value → String
  | .number n => toString n
  | .flag b => toString b
  | v => Text.jsonString v.text

/-- An object of JSON with the given members. -/
def jsonObject (members : List (String × String)) : String :=
  let member (m : String × String) := Text.jsonString m.1 ++ ":" ++ m.2
  "\x7b" ++ String.intercalate "," (members.map member) ++ "\x7d"

/-! ## Styles -/

/-- How notices are written. Only the formats for readers are coloured. -/
structure Style where
  format : Format
  includeTargets : Bool
  ansi : Bool
deriving DecidableEq

namespace Style

/-- A text in a given appearance, if the style is coloured. -/
def paint (style : Style) (code text : String) : String :=
  if style.ansi then painted code text else text

/-- A field in the compact format. -/
def compactField (style : Style) (name : String) (value : Value) : String :=
  style.paint "3" name ++ style.paint "2" "=" ++ value.shown

/-- A notice in the compact format: the span's name stands in front of the target and its field
at the end of the line. -/
def compact (style : Style) (n : Notice) : String :=
  let head := style.paint "2" timePlaceholder ++ " " ++ style.paint n.level.colour n.level.column
  let span := match n.span with
    | some _ => style.paint "1" spanName ++ ": "
    | none => ""
  let target :=
    if style.includeTargets then style.paint "2" n.target ++ style.paint "2" ":" ++ " " else ""
  let fields := n.fields.map fun f => " " ++ style.compactField f.name f.value
  let tail := match n.span with
    | some name => " " ++ style.paint "2" (style.compactField "name" (.quoted name))
    | none => ""
  head ++ " " ++ span ++ target ++ n.message ++ String.join fields ++ tail

/-- The first line of a notice in the pretty format. A coloured line keeps the colour of the
level from the message on. -/
def prettyHead (style : Style) (n : Notice) : String :=
  let colour := n.level.colour
  let resume := if style.ansi then appearance colour else ""
  let strong (text : String) := style.paint ("1;" ++ colour) text ++ resume
  let head := "  " ++ style.paint "2" timePlaceholder ++ " " ++ style.paint colour n.level.column
  let target := if style.includeTargets then strong n.target ++ ":" else ""
  let fields := n.fields.map fun f => ", " ++ strong f.name ++ ": " ++ f.value.shown
  head ++ " " ++ target ++ " " ++ style.paint colour (n.message ++ String.join fields)

/-- The line that says where a notice comes from. -/
def prettySource (style : Style) : String :=
  "    " ++ style.paint "2;3" "at" ++ " " ++ sourcePlaceholder

/-- The line that says which span a notice belongs to. -/
def prettySpan (style : Style) (name : String) : String :=
  let target := if style.includeTargets then Event.spanTarget ++ "::" else ""
  "    " ++ style.paint "2;3" "in" ++ " " ++ target ++ style.paint "1" spanName ++ " " ++
    style.paint "2;3" "with" ++ " " ++ style.paint "1" "name" ++ ": " ++ Text.quote name

/-- A notice in the pretty format, which ends with an empty line. -/
def pretty (style : Style) (n : Notice) : List String :=
  let span := match n.span with
    | some name => [style.prettySpan name]
    | none => []
  [style.prettyHead n, style.prettySource] ++ span ++ [""]

/-- A performance span as JSON. Its field is called `name` as well; the name of the span comes
later, so that a reader who keeps the last of equal members sees it. -/
def jsonSpan (name : String) : String :=
  jsonObject [("name", Text.jsonString name), ("name", Text.jsonString spanName)]

/-- A notice in the format of JSON. Only an entered span is listed among the open ones. -/
def json (style : Style) (n : Notice) : String :=
  let fields := ("message", Text.jsonString n.message) ::
    n.fields.map fun f => (f.name, f.value.json)
  let target := if style.includeTargets then [("target", Text.jsonString n.target)] else []
  let span := match n.span with
    | some name =>
      [("span", jsonSpan name), ("spans", "[" ++ (if n.inside then jsonSpan name else "") ++ "]")]
    | none => []
  jsonObject ([("timestamp", Text.jsonString timePlaceholder),
    ("level", Text.jsonString n.level.name), ("fields", jsonObject fields)] ++ target ++ span)

/-- The lines that show a notice. -/
def lines (style : Style) (n : Notice) : List Line :=
  match style.format with
  | .compact => [.text (style.compact n)]
  | .pretty => (style.pretty n).map .text
  | .json => [.object (style.json n)]

end Style

end PointBridge.Trace
