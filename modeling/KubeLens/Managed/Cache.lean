import KubeLens.Managed.Collection

/-!
# Collected objects, kept for a while

The managed objects of a context are kept until they are too old, or until the context is
cleared.  Times are milliseconds on a clock of the caller's.
-/

namespace KubeLens
namespace Managed

/-- The managed objects of a context. -/
structure Collected where
  items : List Json
  fetchedAt : Nat
  deriving Inhabited

/-- The last collection of each context. -/
abbrev Cache := Assoc String Collected

/-- An answer: the objects, and whether they were kept from before. -/
structure Result where
  items : List Json
  fromCache : Bool
  fetchedAt : Nat
  deriving Inhabited

/-- The collection of a context that is younger than `ttl`. -/
def Cache.fresh? (cache : Cache) (ttl now : Nat) (context : String) : Option Collected :=
  (Assoc.get? cache context).filter fun kept => decide (now - kept.fetchedAt < ttl)

/-- Forgets the collection of a context, or all of them when none is named. -/
def Cache.clear (cache : Cache) (context? : Option String) : Cache :=
  match context?.filter (!·.isEmpty) with
  | some context => Assoc.erase cache context
  | none => []

end Managed

namespace Site

open Managed

/-- The managed objects of a context at a time: those that were kept, unless `force` asks for
new ones. -/
def managed (site : Site) (cache : Cache) (now : Nat) (context? : Option String) (force : Bool) :
    Except ServiceError Result × Cache × Site :=
  match site.resolve context? with
  | (.error error, site) => (.error error, cache, site)
  | (.ok handle, site) =>
    let kept? := if force then none else cache.fresh? site.settings.cacheTtl now handle.context
    match kept? with
    | some kept => (.ok ⟨kept.items, true, kept.fetchedAt⟩, cache, site)
    | none =>
      match site.collectManaged handle with
      | (.error error, site) => (.error error, cache, site)
      | (.ok items, site) =>
        (.ok ⟨items, false, now⟩, Assoc.put cache handle.context ⟨items, now⟩, site)

end Site
end KubeLens
