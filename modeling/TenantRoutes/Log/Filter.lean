import TenantRoutes.Log.Directive
/-! Filters of the log. A filter is a list of directives. Of the directives that are about an event,
the most specific one decides which level the event may have, and of equal ones the last does. -/
namespace TenantRoutes.Log

/-- The texts of the directives in a text. -/
def directiveTexts (text : String) : List (List Char) :=
  (Text.pieces ',' text.toList).filter (!·.isEmpty)

structure Filter where
  directives : List Directive

namespace Filter

open Directive (Fault)

/-- Without any directive only errors are shown. -/
def ofDirectives (directives : List Directive) : Filter :=
  ⟨if directives.isEmpty then [{ rank := 1 }] else directives⟩

/-- The filter of a text, failing like the first text in it that is no directive. -/
def ofText (text : String) : Except Fault Filter :=
  ((directiveTexts text).mapM Directive.ofText).map ofDirectives

/-- The directives among texts, leaving out malformed ones. -/
def wellFormed? : List (List Char) → Option (List Directive)
  | [] => some []
  | text :: rest =>
    match Directive.ofText text with
    | .ok directive => (wellFormed? rest).map (directive :: ·)
    | .error .malformed => wellFormed? rest
    | .error .dividedCharacter => none

/-- The filter of the directives in a text, leaving out malformed ones. -/
def ofTextLenient? (text : String) : Option Filter :=
  (wellFormed? (directiveTexts text)).map ofDirectives

/-- The filter given by the environment, if it gives a well-formed one, or else by the settings.
There is none if the one that is read would divide a character. -/
def select? (environment : Option String) (settings : String) : Option Filter :=
  match environment.map ofText with
  | some (.ok filter) => some filter
  | some (.error .dividedCharacter) => none
  | some (.error .malformed) | none => ofTextLenient? settings

/-- The directive that decides about an event. -/
def decisive? (filter : Filter) (event : Event) : Option Directive :=
  (filter.directives.filter (·.covers event)).foldl (fun best directive =>
    match best with
    | none => some directive
    | some other => if directive.compare other = .lt then some other else some directive) none

/-- Whether an event is shown. -/
def shows (filter : Filter) (event : Event) : Bool :=
  match filter.decisive? event with
  | none => false
  | some directive => event.level.rank ≤ directive.rank

/-- The lines of the events that are shown. -/
def lines (filter : Filter) (withTarget : Bool) (events : List Event) : List String :=
  (events.filter filter.shows).map (Event.line withTarget)

end Filter

end TenantRoutes.Log
