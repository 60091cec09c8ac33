/-!
# Namespace filters

A request may leave its namespace out, or write one of three texts that stand for none.
-/

namespace KubeLens
namespace Namespace

/-- Texts that stand for no namespace. -/
def isSentinel (text : String) : Bool :=
  text == "" || text == "undefined" || text == "null"

/-- The namespace that a request means. -/
def normalize (rawSpace? : Option String) : Option String :=
  rawSpace?.filter fun text => !isSentinel text

end Namespace
end KubeLens
