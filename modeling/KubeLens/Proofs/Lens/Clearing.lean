import KubeLens.Proofs.Lens.Activating
import KubeLens.Proofs.Lens.Collecting
import KubeLens.Proofs.Lens.Confined
import KubeLens.Proofs.Lens.Remembered

/-!
# Forgotten collections

Whoever forgets the collection of a context, or all of them, and asks for the managed objects of the
same context next, has them collected anew.  Inside a cluster this holds for the name of the mounted
credentials only: collections are kept under that name whichever name was asked for, and forgetting
any other name forgets nothing.
-/

namespace KubeLens

namespace Site

variable {site : Site} {handle : Handle}

/-- A connection that an activation gives is one to the context that its name means. -/
theorem ensureActive_context {name : String} (found : (site.ensureActive name).1 = .ok handle) :
    handle.context = Switchboard.target site.host name := by
  have exit := site.ensureActive_exit name
  rw [found] at exit
  generalize (site.ensureActive name).2 = after at exit
  cases exit with
  | kept active =>
      unfold Switchboard.active? at active
      split at active
      · rename_i current
        rw [(Switchboard.handle?_eq_some_iff.mp active).1] at current
        exact Option.some.inj current
      · cases active
  | connected => rfl

/-- A connection for a request that names a context is one to the context that the name means. -/
theorem resolve_context {context? : Option String} {name : String}
    (named : Switchboard.wanted? context? = some name)
    (found : (site.resolve context?).1 = .ok handle) :
    handle.context = Switchboard.target site.host name := by
  rw [resolve_of_wanted named] at found
  exact ensureActive_context found

/-- The managed objects of a context, collected anew. -/
def managedAnew (site : Site) (clock : Nat) (context? : Option String) :
    Except ServiceError Managed.Result × Site :=
  match site.resolve context? with
  | (.error error, site) => (.error error, site)
  | (.ok handle, site) =>
    let (answer, site) := site.collectManaged handle
    (answer.map fun items => ⟨items, false, clock⟩, site)

theorem managedAnew_fromCache {clock : Nat} {context? : Option String} {result : Managed.Result}
    (answered : (site.managedAnew clock context?).1 = .ok result) : result.fromCache = false := by
  unfold managedAnew at answered
  split at answered
  · cases answered
  · rename_i handle after _
    dsimp only at answered
    cases collected : (after.collectManaged handle).1 with
    | error error =>
        rw [collected] at answered
        cases answered
    | ok items =>
        rw [collected] at answered
        cases answered
        rfl

end Site

namespace Managed

/-- A context is covered unless another one is named. -/
theorem covers_iff {named? : Option String} {context : String} :
    covers named? context = true ↔
      ∀ name, Switchboard.wanted? named? = some name → name = context := by
  unfold covers Switchboard.wanted?
  cases named? with
  | none => simp
  | some name =>
      by_cases blank : name = ""
      · simp [blank, Option.filter_some]
      · simp [blank, Option.filter_some]

end Managed

namespace Lens

variable {lens : Lens} {clock : Nat} {context? : Option String}

/-- A context whose collection is not kept is collected anew. -/
theorem managed_of_unkept (clock : Nat)
    (unkept : ∀ handle, (lens.site.resolve context?).1 = .ok handle →
      Assoc.get? lens.cache handle.context = none) :
    (lens.managed clock context? false).1 = (lens.site.managedAnew clock context?).1 ∧
      (lens.managed clock context? false).2.site = (lens.site.managedAnew clock context?).2 := by
  rw [managed_eq]
  unfold Site.managedAnew
  rcases resolved : lens.site.resolve context? with ⟨_ | handle, site⟩
  · exact ⟨rfl, rfl⟩
  · have missing := unkept handle (congrArg Prod.fst resolved)
    unfold goOn managedOver kept? Managed.Cache.fresh?
    simp only [missing, Bool.false_eq_true, if_false, Option.filter_none]
    rcases site.collectManaged handle with ⟨_ | items, after⟩ <;> exact ⟨rfl, rfl⟩

/-- Over a connection, an answer depends on no collection but the one that is kept of its context. -/
theorem managedOver_fst_congr (lens : Lens) {other : Managed.Cache} {handle : Handle} {force : Bool}
    (same : ({ lens with cache := other } : Lens).kept? handle.context clock force =
      lens.kept? handle.context clock force) :
    (({ lens with cache := other } : Lens).managedOver handle clock force).1 =
      (lens.managedOver handle clock force).1 := by
  unfold managedOver
  rw [same]
  cases lens.kept? handle.context clock force with
  | some kept => rfl
  | none =>
      dsimp only
      rcases lens.site.collectManaged handle with ⟨_ | _, _⟩ <;> rfl

/-- An answer does not change with what is kept of other contexts. -/
theorem managed_fst_congr {other : Managed.Cache} {force : Bool}
    (same : ∀ handle, (lens.site.resolve context?).1 = .ok handle →
      Assoc.get? other handle.context = Assoc.get? lens.cache handle.context) :
    (({ lens with cache := other } : Lens).managed clock context? force).1 =
      (lens.managed clock context? force).1 := by
  rw [managed_eq, managed_eq]
  dsimp only
  cases found : (lens.site.resolve context?).1 with
  | error error => rfl
  | ok handle =>
      refine managedOver_fst_congr { lens with site := _ } ?_
      unfold kept? Managed.Cache.fresh?
      dsimp only
      rw [same handle found]

/-- When the collection of the context that is named was forgotten, and the name stands for itself, or
when all collections were forgotten, the managed objects are collected anew.  Inside a cluster every
name means the mounted credentials; forgetting the collection of another name changes no answer. -/
theorem cleared_anew (lens : Lens) (clock : Nat) (context? : Option String) :
    let cleared := lens.clearManaged context?
    let answer := (cleared.managed clock context? false).1
    (lens.site.host.inCluster = false ∨ Switchboard.wanted? context? = none ∨
        Switchboard.wanted? context? = some inClusterContext →
      answer = (lens.site.managedAnew clock context?).1 ∧
      (cleared.managed clock context? false).2.site = (lens.site.managedAnew clock context?).2 ∧
      ∀ result, answer = .ok result → result.fromCache = false) ∧
    ∀ name, lens.site.host.inCluster = true → Switchboard.wanted? context? = some name →
      name ≠ inClusterContext → answer = (lens.managed clock context? false).1 := by
  intro cleared answer
  constructor
  · intro own
    have unkept : ∀ handle, (cleared.site.resolve context?).1 = .ok handle →
        Assoc.get? cleared.cache handle.context = none := by
      intro handle found
      refine (Managed.get?_clear lens.cache context? handle.context).trans (if_pos ?_)
      refine Managed.covers_iff.mpr fun name named => ?_
      have itself : Switchboard.target lens.site.host name = name := by
        rcases own with outside | unnamed | mounted
        · simp [Switchboard.target, outside]
        · cases named.symm.trans unnamed
        · cases named.symm.trans mounted
          unfold Switchboard.target
          exact ite_self _
      exact itself.symm.trans (Site.resolve_context named found).symm
    obtain ⟨anew, site⟩ := managed_of_unkept clock unkept
    refine ⟨anew, site, fun result answered => ?_⟩
    exact Site.managedAnew_fromCache (anew.symm.trans answered)
  · intro name inside named other
    refine managed_fst_congr fun handle found => ?_
    have context : handle.context = inClusterContext :=
      (Site.resolve_context named found).trans (Switchboard.target_inside inside name)
    rw [Managed.get?_clear, context]
    exact if_neg fun covered => other (Managed.covers_iff.mp covered name named)

/-- A cluster that only has definitions, but none of them. -/
def definitionsOnly : Cluster :=
  { types := [ResourceType.customResourceDefinitions.shelfKey] }

/-- A service inside a cluster, which was asked for the managed objects of `dev`. -/
def collectedInside : Lens :=
  (onHost (.defaults none) { accountFiles? := some credentialFiles }).run
    [.reshape inClusterContext definitionsOnly, .managed 5 (some "dev") false]

/-- An answer without objects is known by its other parts. -/
theorem eq_ok_of_parts {answer : Except ServiceError Managed.Result} {fromCache : Bool}
    {fetchedAt : Nat}
    (parts : answer.toOption.map (fun result =>
      (result.items.isEmpty, result.fromCache, result.fetchedAt)) =
        some (true, fromCache, fetchedAt)) : answer = .ok ⟨[], fromCache, fetchedAt⟩ := by
  cases answer with
  | error => cases parts
  | ok result =>
      obtain ⟨empty, rfl, rfl⟩ : result.items.isEmpty = true ∧ result.fromCache = fromCache ∧
          result.fetchedAt = fetchedAt := by
        simpa [Except.toOption] using parts
      rw [← List.isEmpty_iff.mp empty]

/-- A context was collected from while it had nothing.  Now it has a bucket, which is found after
the collection is forgotten.  Inside a cluster nothing is forgotten by the name of this context. -/
theorem cleared_anew_bucket :
    let lens := (onHost (.defaults none) (.storing ["dev"])).run
      [.reshape "dev" definitionsOnly, .managed 5 (some "dev") false,
        .reshape "dev" bucketCluster]
    (lens.managed 9 (some "dev") false).1 = .ok ⟨[], true, 5⟩ ∧
      (∃ result,
        ((lens.clearManaged (some "dev")).managed 9 (some "dev") false).1 = .ok result ∧
        result.fromCache = false ∧ result.items.length = 1) ∧
      ((collectedInside.clearManaged (some "dev")).managed 9 (some "dev") false).1 =
        (collectedInside.managed 9 (some "dev") false).1 := by
  intro lens
  have inside := (cleared_anew collectedInside 9 (some "dev")).2 "dev" (by decide) (by decide)
    (by decide)
  obtain ⟨_, _, anew⟩ := (cleared_anew lens 9 (some "dev")).1 (.inl (by decide))
  have collected : (((lens.clearManaged (some "dev")).managed 9 (some "dev") false).1.map
      (·.items.length)).toOption = some 1 := by
    decide +kernel
  cases answer : ((lens.clearManaged (some "dev")).managed 9 (some "dev") false).1 with
  | error error =>
      rw [answer] at collected
      cases collected
  | ok result =>
      rw [answer] at collected
      exact ⟨eq_ok_of_parts (by decide +kernel), ⟨result, rfl, anew result answer, Option.some.inj collected⟩, inside⟩

/-- Inside a cluster the collection that was made for a name is not forgotten by that name. -/
theorem cleared_kept :
    ((collectedInside.clearManaged (some "dev")).managed 9 (some "dev") false).1 =
      .ok ⟨[], true, 5⟩ :=
  eq_ok_of_parts (by decide +kernel)

end Lens
end KubeLens
