import CameraConsole.Client.Config
import CameraConsole.Log
import CameraConsole.Text.Split

/-!
# The filter of the log

The environment says which events are shown. A filter is a list of directives between commas, each of
the form `target[span{field=value}]=level`, where every part may be missing. The most specific
directive about an event decides.
-/

namespace CameraConsole

/-! ## Levels -/

/-- How much is shown, from nothing to everything. -/
inductive Verbosity where
  | off
  | error
  | warn
  | info
  | debug
  | trace
  deriving DecidableEq, Repr

namespace Verbosity

def all : List Verbosity :=
  [off, error, warn, info, debug, trace]

def name : Verbosity → String
  | off => "off"
  | error => "error"
  | warn => "warn"
  | info => "info"
  | debug => "debug"
  | trace => "trace"

def rank : Verbosity → Nat
  | off => 0
  | error => 1
  | warn => 2
  | info => 3
  | debug => 4
  | trace => 5

/-- The least that shows events of a level. -/
def ofLevel : Level → Verbosity
  | .warn => warn
  | .info => info
  | .debug => debug

def shows (v : Verbosity) (level : Level) : Bool :=
  (ofLevel level).rank ≤ v.rank

/-- Reads a name in letters of any case, or the number of its place. -/
def read? (cs : List Char) : Option Verbosity :=
  match Text.readNumeral 5 (String.ofList cs) with
  | .ok n => all[n]?
  | .error _ => all.find? fun v => v.name.toList = cs.map Char.toLower

/-- Reads the end of a directive. Where it gives no level everything is shown. -/
def readEnd? : List Char → Option Verbosity
  | [] | ['='] => some trace
  | '=' :: cs => read? cs
  | _ => none

end Verbosity

/-! ## Directives -/

/-- What a directive is about: all events, those with a field, or what happens in spans. The program
has no spans. -/
inductive Scope where
  | events
  | eventsWith (field : String)
  | spans
  deriving DecidableEq, Repr

namespace Scope

/-- Reads what stands behind an opening bracket, and gives the rest behind the closing one. A name
or the value of a field is for spans. Values are patterns, taken to be well formed. -/
def read? (cs : List Char) : Option (Scope × List Char) :=
  let outside (c : Char) : Bool := c ≠ ']' && c ≠ '\x7b'
  match cs.dropWhile outside with
  | ']' :: rest => some (spans, rest)
  | '\x7b' :: inner =>
    let field := inner.takeWhile (· ≠ '\x7d')
    match inner.dropWhile (· ≠ '\x7d') with
    | '\x7d' :: ']' :: rest =>
      if field = [] then none
      else if cs.takeWhile outside = [] ∧ '=' ∉ field then
        some (eventsWith (String.ofList field), rest)
      else some (spans, rest)
    | _ => none
  | _ => none

/-- The field that an event needs; empty when it needs none. -/
def field : Scope → String
  | eventsWith name => name
  | events | spans => ""

def includes (s : Scope) (e : LogEvent) : Bool :=
  match s with
  | events => true
  | eventsWith name => name ∈ e.names
  | spans => false

end Scope

/-- One directive of a filter. Its target is the start of the names of those parts of the program
that it is about, empty for all parts. -/
structure Directive where
  target : List Char
  scope : Scope
  verbosity : Verbosity
  deriving DecidableEq, Repr

namespace Directive

/-- A directive about every event. -/
def everywhere (v : Verbosity) : Directive :=
  ⟨[], .events, v⟩

/-- How the name of a target starts. Characters beyond ASCII are taken for letters. -/
def startsTarget (c : Char) : Bool :=
  c.isAlphanum || c = '-' || c = ':' || c = '_' || 0x7F < c.toNat

/-- Reads a directive. A level may stand alone, and so may a target. -/
def read? (cs : List Char) : Option Directive :=
  let inTarget (c : Char) : Bool := c ≠ '=' && c ≠ '['
  let target := cs.takeWhile inTarget
  if target.head?.all startsTarget then
    match cs.dropWhile inTarget with
    | [] => some (((Verbosity.read? target).map everywhere).getD ⟨target, .events, .trace⟩)
    | '[' :: inner => do
      let (scope, rest) ← Scope.read? inner
      let verbosity ← Verbosity.readEnd? rest
      return ⟨target, scope, verbosity⟩
    | rest =>
      if target = [] then none
      else (Verbosity.readEnd? rest).map (⟨target, .events, ·⟩)
  else none

def concerns (d : Directive) (e : LogEvent) : Bool :=
  d.target.isPrefixOf e.source.toList && d.scope.includes e

/-- The first directive is more specific: its target is longer, or as long and it needs a field. Of
two fields the one with the later name counts. -/
def overrides (d d' : Directive) : Bool :=
  d'.target.length < d.target.length ||
    (d.target.length = d'.target.length && d'.scope.field < d.scope.field)

end Directive

/-! ## Filters -/

abbrev LogFilter := List Directive

namespace LogFilter

/-- The directive that decides about an event: the most specific one, of equals the last. -/
def decisive? (e : LogEvent) : LogFilter → Option Directive
  | [] => none
  | d :: ds =>
    if d.concerns e then
      match decisive? e ds with
      | none => some d
      | some best => if d.overrides best then some d else some best
    else decisive? e ds

def shows (f : LogFilter) (e : LogEvent) : Bool :=
  (f.decisive? e).any (·.verbosity.shows e.level)

/-- Reads the directives between commas; empty ones are none. Without any, errors are shown. -/
def read? (s : String) : Option LogFilter := do
  match ← ((Text.splitAll (· = ',') s.toList).filter (· ≠ [])).mapM Directive.read? with
  | [] => return [.everywhere .error]
  | ds => return ds

/-- The filter of an environment. One that cannot be read is as good as absent; warnings are shown
then. -/
def ofEnvironment (env : Environment) : LogFilter :=
  ((env.lookup "RUST_LOG").bind read?).getD [.everywhere .warn]

end LogFilter

end CameraConsole
