import Multiples.Log.Directive

/-!
# Which records are told

A filter is a list of directives between commas.

A directive without a span is for all records of a target, or for those of them with a field.  For a record, the closest
such directive decides: the one with the longest target that its own target begins with, of two the one with a field, and
of two for the same the later one.  Without any, nothing is told.

A directive with a span or a field is for all that is told within such a span, whatever the others say.  One that asks
for the value of a field is for nothing: the records and spans here show which fields they have, not their values.

* `Log.Filter.parse?` reads a filter;
* `Log.Filter.admits` applies it to a record;
* `Log.defaultDirectives` is the filter for a configured level.
-/

namespace Multiples

namespace Log

/-- Directives in order. -/
abbrev Filter := List Directive

/-- The filter for a configured level: it holds for this program and for the requests that it serves. -/
def defaultDirectives (level : Text) : Text :=
  "factor_service=".toList ++ level ++ ",tower_http=".toList ++ level

namespace Directive

/-- Whether a level is told at a threshold. -/
def tells (d : Directive) (level : Level) : Bool := d.threshold.any fun least => decide (least.rank ≤ level.rank)

/-- Whether a directive is for a target. -/
def isFor (d : Directive) (target : Text) : Bool := d.target.all fun start => (Text.after? start target).isSome

/-- Whether a directive asks for no other field than some. -/
def asksFor (d : Directive) (names : List Text) : Bool := d.field.all fun f => names.contains f.name

/-- Whether a directive asks for the value of a field. -/
def asksForValue (d : Directive) : Bool := d.field.any fun f => f.value.isSome

/-! ### Records by themselves -/

/-- Whether a directive can decide about a record by itself. -/
def covers (d : Directive) (r : Record) : Bool :=
  d.span.isNone && !d.asksForValue && d.isFor r.target && d.asksFor r.names

/-- How closely a directive names its target. -/
def targetSize (d : Directive) : Nat :=
  match d.target with
  | some start => start.length + 1
  | none => 0

/-- The field that a directive asks for; none comes before all others. -/
def fieldName (d : Directive) : Text := (d.field.map FieldPattern.name).getD []

/-- Whether a directive is at least as close as another one that covers the same record. -/
def isAsClose (d other : Directive) : Bool :=
  decide (other.targetSize < d.targetSize) || (other.targetSize == d.targetSize && other.fieldName.isAtMost d.fieldName)

/-! ### Records within a span -/

/-- Whether a directive is for all that is told within a span. -/
def opens (d : Directive) (s : Span) : Bool :=
  (d.span.isSome || d.field.isSome) && !d.asksForValue && d.isFor s.target && d.span.all (· == s.name) && d.asksFor s.names

end Directive

namespace Filter

/-- The filter that a text is. -/
def parse? (s : Text) : Option Filter := ((s.cells ',').filter fun piece => !piece.isEmpty).mapM Directive.parse?

/-- The directive that decides about a record by itself. -/
def deciding? (filter : Filter) (r : Record) : Option Directive :=
  (filter.filter (Directive.covers · r)).foldl (fun best d =>
    match best with
    | some b => if d.isAsClose b then some d else best
    | none => some d) none

/-- Whether a record is told.  A filter without directives tells errors. -/
def admits (filter : Filter) (r : Record) : Bool :=
  (r.span.any fun s => filter.any fun d => d.opens s && d.tells r.level)
    || match deciding? filter r with
      | some d => d.tells r.level
      | none => filter.isEmpty && r.level = .error

end Filter

end Log

end Multiples
