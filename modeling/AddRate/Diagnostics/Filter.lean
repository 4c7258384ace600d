import AddRate.Diagnostics.Directive
import AddRate.Environment
import AddRate.Trap

/-!
# Diagnostics filters

A filter is a set of directives, ordered from specific to general, in which a later directive
replaces an equally specific one with the same scope. Directives that need neither a span nor a
field's value are kept apart from those that look at them. The environment's filter is taken if
it can be read; otherwise warnings and errors are let through. Directives are read in order, up to
the first that cannot be read.
-/

namespace AddRate.Diagnostics

structure Filter where
  statics : List Directive
  dynamics : List Directive

namespace Filter

/-- Put a directive at its place, instead of the one with the same scope if there is one. -/
def insert (directive : Directive) : List Directive → List Directive
  | [] => [directive]
  | other :: rest =>
    match directive.order other with
    | .lt => directive :: other :: rest
    | .eq => directive :: rest
    | .gt => other :: insert directive rest

def ordered (directives : List Directive) : List Directive :=
  directives.foldl (fun sorted directive => insert directive sorted) []

/-- The filter of some directives. -/
def ofDirectives (directives : List Directive) : Filter :=
  let (dynamics, statics) := directives.partition Directive.isDynamic
  { statics := ordered (statics ++ dynamics.filter Directive.isStatic)
    dynamics := ordered dynamics }

/-- Split a text at its commas. -/
def pieces (text : List Char) : List (List Char) :=
  (text.splitOnP (· == ',')).filter (!·.isEmpty)

/-- Read a filter: directives with commas between them. -/
def parse (text : String) : Except Directive.Failure Filter :=
  ((pieces text.toList).mapM Directive.parse).map ofDirectives

/-- The filter when the environment sets none that can be read. -/
def default : Filter :=
  ofDirectives [{ level := .warn }]

/-- The filter that the environment sets. -/
def ofEnvironment (environment : Environment) : Except Trap Filter :=
  match (environment.text? "RUST_LOG").map parse with
  | none | some (.error .malformed) => .ok default
  | some (.error .splitCharacter) => .error .splitCharacter
  | some (.ok filter) => .ok filter

def text (filter : Filter) : String :=
  ",".intercalate ((filter.statics ++ filter.dynamics).map Directive.text)

end Filter

end AddRate.Diagnostics
