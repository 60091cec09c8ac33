import KubeLens.Proofs.Managed.Aggregation
import KubeLens.Proofs.Managed.Order

/-!
# Listing types side by side

The managed types are listed side by side, some at a time.  A list is begun when there is room for
it, in the order of the types; it is answered and finished whenever it pleases, and meanwhile
other requests may ask the clusters too.  The batches are kept in the order in which their lists
finish.  Whatever that order is, they are the batches of the types.
-/

namespace KubeLens
namespace Managed

/-- A list that was begun, and what it found if it was answered. -/
structure Query where
  type : ResourceType
  answer? : Option (List Json)

/-- How far a collection is: the types whose lists wait, the lists that were begun, and the types
whose lists have finished with what they found, in this order. -/
structure Gathering where
  site : Site
  waiting : List ResourceType
  running : List Query := []
  finished : List (ResourceType × List Json) := []

namespace Gathering

/-- What happens at once while at most `limit` lists run. -/
inductive Move (handle : Handle) (limit : Nat) : Gathering → Gathering → Prop
  /-- There is room for the next list. -/
  | start {site : Site} {type : ResourceType} {waiting : List ResourceType}
      {running : List Query} {finished : List (ResourceType × List Json)}
      (room : running.length < limit) :
      Move handle limit ⟨site, type :: waiting, running, finished⟩
        ⟨site, waiting, running ++ [⟨type, none⟩], finished⟩
  /-- The cluster answers a list. -/
  | answer {site : Site} {type : ResourceType} {waiting : List ResourceType}
      {earlier later : List Query} {finished : List (ResourceType × List Json)} :
      Move handle limit ⟨site, waiting, earlier ++ ⟨type, none⟩ :: later, finished⟩
        ⟨(site.managedBatch handle type).2, waiting,
          earlier ++ ⟨type, some (site.managedBatch handle type).1⟩ :: later, finished⟩
  /-- A list that was answered makes room. -/
  | finish {site : Site} {type : ResourceType} {items : List Json}
      {waiting : List ResourceType} {earlier later : List Query}
      {finished : List (ResourceType × List Json)} :
      Move handle limit
        ⟨site, waiting, earlier ++ ⟨type, some items⟩ :: later, finished⟩
        ⟨site, waiting, earlier ++ later, finished ++ [(type, items)]⟩
  /-- Other requests are served. -/
  | other {site after : Site} {waiting : List ResourceType} {running : List Query}
      {finished : List (ResourceType × List Json)} (same : site.fleet.SameContents after.fleet) :
      Move handle limit ⟨site, waiting, running, finished⟩ ⟨after, waiting, running, finished⟩

/-- What happens while at most `limit` lists run. -/
abbrev Moves (handle : Handle) (limit : Nat) : Gathering → Gathering → Prop :=
  Relation.ReflTransGen (Move handle limit)

/-- Whether all lists have finished. -/
structure Complete (gathering : Gathering) : Prop where
  waiting : gathering.waiting = []
  running : gathering.running = []

/-- What was found, in the order in which the lists finished. -/
def batches (gathering : Gathering) : List (List Json) :=
  gathering.finished.map (·.2)

/-! ## Every collection can be completed -/

section Completion

variable {handle : Handle} {limit : Nat}

/-- The first list that runs can be finished. -/
theorem moves_finish (site : Site) (waiting : List ResourceType) (query : Query)
    (later : List Query) (finished : List (ResourceType × List Json)) :
    ∃ after items, Moves handle limit ⟨site, waiting, query :: later, finished⟩
      ⟨after, waiting, later, finished ++ [(query.type, items)]⟩ := by
  obtain ⟨type, answer?⟩ := query
  have finish : ∀ after items, Move handle limit
      ⟨after, waiting, ⟨type, some items⟩ :: later, finished⟩
      ⟨after, waiting, later, finished ++ [(type, items)]⟩ :=
    fun after items => @Move.finish handle limit after type items waiting [] later finished
  cases answer? with
  | some items => exact ⟨site, items, .single (finish site items)⟩
  | none =>
      have answer := @Move.answer handle limit site type waiting [] later finished
      exact ⟨_, _, .head answer (.single (finish _ _))⟩

theorem moves_drain (site : Site) (waiting : List ResourceType) (running : List Query)
    (finished : List (ResourceType × List Json)) :
    ∃ after more, Moves handle limit ⟨site, waiting, running, finished⟩
      ⟨after, waiting, [], more⟩ := by
  induction running generalizing site finished with
  | nil => exact ⟨site, finished, .refl⟩
  | cons query later ih =>
      obtain ⟨middle, items, first⟩ := moves_finish site waiting query later finished
      obtain ⟨after, more, rest⟩ := ih middle (finished ++ [(query.type, items)])
      exact ⟨after, more, first.trans rest⟩

/-- When at least one list may run, no collection is stuck. -/
theorem moves_complete (room : 1 ≤ limit) (gathering : Gathering) :
    ∃ after, Moves handle limit gathering after ∧ after.Complete := by
  obtain ⟨site, waiting, running, finished⟩ := gathering
  induction waiting generalizing site running finished with
  | nil =>
      obtain ⟨after, more, drained⟩ := moves_drain site [] running finished
      exact ⟨_, drained, rfl, rfl⟩
  | cons type rest ih =>
      obtain ⟨middle, more, drained⟩ := moves_drain site (type :: rest) running finished
      obtain ⟨after, completed, complete⟩ := ih middle [⟨type, none⟩] more
      exact ⟨after, (drained.tail (.start room)).trans completed, complete⟩

/-- Where there is room for all lists, all of them can be begun. -/
theorem moves_start (site : Site) (waiting : List ResourceType) (running : List Query)
    (room : running.length + waiting.length ≤ limit) :
    Moves handle limit ⟨site, waiting, running, []⟩
      ⟨site, [], running ++ waiting.map (⟨·, none⟩), []⟩ := by
  induction waiting generalizing running with
  | nil =>
      rw [List.map_nil, List.append_nil]
  | cons type rest ih =>
      rw [List.length_cons] at room
      have left : (running ++ [(⟨type, none⟩ : Query)]).length + rest.length ≤ limit := by
        rw [List.length_append, List.length_singleton]
        omega
      have begun := ih (running ++ [⟨type, none⟩]) left
      rw [List.append_assoc] at begun
      exact .head (.start (by omega)) begun

/-- Lists that were begun can finish in any order. -/
theorem moves_order {order begun : List ResourceType} (perm : order.Perm begun) (site : Site)
    (finished : List (ResourceType × List Json)) :
    ∃ gathering, Moves handle limit ⟨site, [], begun.map (⟨·, none⟩), finished⟩ gathering ∧
      gathering.Complete ∧ gathering.finished.map (·.1) = finished.map (·.1) ++ order := by
  induction order generalizing begun site finished with
  | nil =>
      rw [List.nil_perm.mp perm]
      exact ⟨_, .refl, ⟨rfl, rfl⟩, (List.append_nil _).symm⟩
  | cons type rest ih =>
      obtain ⟨earlier, later, rfl⟩ := List.append_of_mem (perm.subset List.mem_cons_self)
      have others : rest.Perm (earlier ++ later) := (perm.trans List.perm_middle).cons_inv
      obtain ⟨gathering, moves, complete, ordered⟩ :=
        ih others (site.managedBatch handle type).2
          (finished ++ [(type, (site.managedBatch handle type).1)])
      rw [List.map_append] at moves
      refine ⟨gathering, ?_, complete, by simpa using ordered⟩
      rw [List.map_append, List.map_cons]
      exact .head .answer (.head .finish moves)

/-- Where there is room for all lists, they can finish in any order. -/
theorem moves_any_order {order types : List ResourceType} (enough : types.length ≤ limit)
    (perm : order.Perm types) (site : Site) :
    ∃ last, Moves handle limit { site, waiting := types } last ∧ last.Complete ∧
      last.finished.map (·.1) = order := by
  have begun : Moves handle limit { site, waiting := types }
      ⟨site, [], types.map (⟨·, none⟩), []⟩ :=
    moves_start site types [] (by simpa using enough)
  obtain ⟨last, moves, complete, ordered⟩ := @moves_order handle limit _ _ perm site []
  exact ⟨last, begun.trans moves, complete, ordered⟩

end Completion

/-! ## What a collection finds -/

/-- Whether a collection of some types accounts for all of them, with the batch of each. -/
structure Accounts (batch : ResourceType → List Json) (types : List ResourceType)
    (gathering : Gathering) : Prop where
  types : (gathering.finished.map (·.1) ++
    (gathering.running.map (·.type) ++ gathering.waiting)).Perm types
  answered : ∀ query ∈ gathering.running, ∀ items, query.answer? = some items →
    items = batch query.type
  finished : ∀ entry ∈ gathering.finished, entry.2 = batch entry.1

section Findings

variable {handle : Handle} {limit : Nat} {fleet : Fleet} {types : List ResourceType}
  {before after : Gathering}

theorem Move.sameContents (move : Move handle limit before after)
    (same : fleet.SameContents before.site.fleet) : fleet.SameContents after.site.fleet := by
  cases move with
  | start => exact same
  | answer => exact same.trans (Site.managedBatch_evolves _ _ _).sameContents
  | finish => exact same
  | other steady => exact same.trans steady

theorem Move.accounts (move : Move handle limit before after)
    (named : ∀ type ∈ types, type.plural ≠ "") (same : fleet.SameContents before.site.fleet)
    (accounts : Accounts (batch handle.client fleet) types before) :
    Accounts (batch handle.client fleet) types after := by
  obtain ⟨all, answered, finished⟩ := accounts
  cases move with
  | start room =>
      refine ⟨by simpa using all, fun query present items found => ?_, finished⟩
      rcases List.mem_append.mp present with before | new
      · exact answered query before items found
      · rw [List.mem_singleton.mp new] at found
        cases found
  | @answer site type waiting earlier later _ =>
      refine ⟨by simpa using all, fun query present items found => ?_, finished⟩
      have known : type ∈ types := all.subset (by simp)
      have listed := site.managedBatch_fst handle (named type known)
      rw [same.documents] at listed
      rcases List.mem_append.mp present with before | here
      · exact answered query (List.mem_append_left _ before) items found
      · rcases List.mem_cons.mp here with rfl | after
        · rw [← Option.some.inj found]
          exact listed
        · exact answered query (List.mem_append_right _ (List.mem_cons_of_mem _ after)) items found
  | @finish site type items waiting earlier later done =>
      refine ⟨?_, fun query present => ?_, fun entry present => ?_⟩
      · refine List.Perm.trans ?_ all
        simp only [List.map_append, List.map_cons, List.map_nil, List.append_assoc,
          List.cons_append, List.nil_append]
        exact (List.perm_middle.symm).append_left _
      · refine answered query ?_
        rcases List.mem_append.mp present with before | after
        · exact List.mem_append_left _ before
        · exact List.mem_append_right _ (List.mem_cons_of_mem _ after)
      · rcases List.mem_append.mp present with before | new
        · exact finished entry before
        · rw [List.mem_singleton.mp new]
          exact answered ⟨type, some items⟩ (List.mem_append_right _ List.mem_cons_self) items rfl
  | other => exact ⟨all, answered, finished⟩

theorem Moves.accounts (moves : Moves handle limit before after)
    (named : ∀ type ∈ types, type.plural ≠ "") (same : fleet.SameContents before.site.fleet)
    (accounts : Accounts (batch handle.client fleet) types before) :
    fleet.SameContents after.site.fleet ∧
      Accounts (batch handle.client fleet) types after := by
  induction moves with
  | refl => exact ⟨same, accounts⟩
  | tail _ move ih => exact ⟨move.sameContents ih.1, move.accounts named ih.1 ih.2⟩

theorem Accounts.start (batch : ResourceType → List Json) (site : Site)
    (types : List ResourceType) : Accounts batch types { site, waiting := types } :=
  ⟨.refl types, nofun, nofun⟩

/-- When all lists have finished, their batches are those of the types in some order. -/
theorem Accounts.complete {batch : ResourceType → List Json} {gathering : Gathering}
    (accounts : Accounts batch types gathering) (complete : gathering.Complete) :
    ∃ order : List ResourceType, order.Perm types ∧ gathering.batches = order.map batch := by
  refine ⟨gathering.finished.map (·.1), ?_, ?_⟩
  · have all := accounts.types
    rwa [complete.running, complete.waiting, List.map_nil, List.append_nil, List.append_nil] at all
  · unfold batches
    rw [List.map_map]
    exact List.map_congr_left accounts.finished

end Findings

end Gathering
end Managed
end KubeLens
