import KubeLens.Json.Basic

/-!
# Field selectors

A selector is a list of terms separated by commas.  A term asks that the string at a dotted path
is equal to a given one; blanks around path and string do not count, and empty terms ask for
nothing.
-/

namespace KubeLens
namespace Selector

/-- Whether a document satisfies a term.  A term without an equals sign holds of none. -/
def termHolds (document : Json) (term : List Char) : Bool :=
  match Text.splitOnce '=' term with
  | none => false
  | some (path, expected) =>
    let pointer := (Text.trimChars path).map fun c => if c = '.' then '/' else c
    document.strAt? (Json.pointerSteps pointer) == some (String.ofList (Text.trimChars expected))

/-- Whether a document satisfies every term of a selector. -/
def holds (document : Json) (selector : String) : Bool :=
  ((Text.splitAll ',' selector.toList).filter (!·.isEmpty)).all (termHolds document)

end Selector
end KubeLens
