import KubeLens.Proofs.Kubeconfig.Entries
import KubeLens.Proofs.Lens.Removal

/-!
# The history of the stored document

Entries come with the first document and with texts that are added, and go with contexts that are
removed.  In between nothing touches them: each one that is left is the one that arrived last, and
they stay in the order of their arrival.  What the document says besides its lists never changes.
This holds as long as nobody else writes the kubeconfig file.
-/

namespace KubeLens
namespace Lens

/-- The stored document, or the blank one where there is no file. -/
def stored (lens : Lens) : Except ServiceError Kubeconfig :=
  lens.site.host.loadOrBlank lens.site.settings

/-- What an event adds to the stored document. -/
def novelties (lens : Lens) : Event → Kubeconfig
  | .addContexts raw =>
    match (lens.addContexts raw).1, lens.stored, Kubeconfig.parse raw with
    | .ok _, .ok document, .ok incoming => document.additions incoming
    | _, _, _ => {}
  | _ => {}

/-- Whether an event is an addition or a removal that is refused. -/
def refuses (lens : Lens) : Event → Bool
  | .addContexts raw => !(lens.addContexts raw).1.isOk
  | .removeContext name => !(lens.removeContext name).1.isOk
  | _ => false

/-- The entries that events add to one of the lists, each with the number of its event.  The first
event has the number after `time`. -/
def introductions (lens : Lens) (part : Kubeconfig.Part) :
    Nat → List Event → List (Nat × Entry)
  | _, [] => []
  | time, event :: rest =>
    ((lens.novelties event).entries part).map ((time + 1, ·)) ++
      (lens.act event).introductions part (time + 1) rest

/-- All entries that were ever stored in one of the lists, each with the number of the event that
brought it; those of the first document have the number 0. -/
def arrivals (lens : Lens) (document : Kubeconfig) (part : Kubeconfig.Part)
    (events : List Event) : List (Nat × Entry) :=
  (document.entries part).map ((0, ·)) ++ lens.introductions part 0 events

/-- Whether an entry is stored in one of the lists. -/
def Stores (lens : Lens) (part : Kubeconfig.Part) (entry : Entry) : Prop :=
  ∃ document, lens.stored = .ok document ∧ entry ∈ document.entries part

/-- What is left of the entries that arrived in one of the lists, when some events happen after
the one with the number `time`. -/
structure Remains (lens : Lens) (part : Kubeconfig.Part) (time : Nat) (events : List Event)
    (arrived kept : List (Nat × Entry)) : Prop where
  stored : ∃ final, (lens.run events).stored = .ok final ∧ final.entries part = kept.map (·.2)
  /-- Entries stay in the order of their arrival. -/
  sublist : kept.Sublist arrived
  /-- An entry that is left was stored ever since it arrived. -/
  since : ∀ stamp entry, (stamp, entry) ∈ kept → ∀ earlier, earlier <+: events →
    stamp ≤ time + earlier.length → (lens.run earlier).Stores part entry

/-! ## One event -/

/-- What one event does to the stored document. -/
structure Revises (lens : Lens) (event : Event) (before after : Kubeconfig) : Prop where
  extra : after.extra = before.extra
  /-- Some entries stay as they are, all of them unless a context is removed, and what is new comes
  after them. -/
  entries : ∀ part, ∃ kept, kept.Sublist (before.entries part) ∧
    ((∀ name, event ≠ .removeContext name) → kept = before.entries part) ∧
    after.entries part = kept ++ (lens.novelties event).entries part
  /-- Only the removal of the current context replaces it. -/
  current : after.current ≠ before.current →
    ∃ name, event = .removeContext name ∧ before.current = some name

variable {lens : Lens} {event : Event} {document : Kubeconfig}

theorem Revises.of_same (nothing : lens.novelties event = {}) :
    lens.Revises event document document where
  extra := rfl
  entries part := by
    refine ⟨document.entries part, List.Sublist.refl _, fun _ => rfl, ?_⟩
    rw [nothing]
    cases part <;> exact (List.append_nil _).symm
  current changed := absurd rfl changed

theorem addContexts_of_refused {raw : String} {error : ServiceError}
    (refused : Switchboard.addContexts lens.site.settings lens.site.host raw =
      (.error error, lens.site.host)) :
    lens.addContexts raw = (.error error, lens) := by
  simp [addContexts, refused]

/-- Adding contexts changes nothing, or merges what it reads into the stored document. -/
theorem addContexts_revises (loaded : lens.stored = .ok document) (raw : String) :
    ∃ after, (lens.act (.addContexts raw)).stored = .ok after ∧
      lens.Revises (.addContexts raw) document after := by
  rcases Switchboard.addContexts_cases lens.site.settings lens.site.host raw with
    ⟨error, refused⟩ | ⟨before, incoming, host, _, read, loadedBefore, saved, stored⟩
  · have unchanged := addContexts_of_refused refused
    refine ⟨document, ?_, .of_same ?_⟩
    · rw [act, unchanged]
      exact loaded
    · simp [novelties, unchanged]
  · obtain rfl : document = before := Except.ok.inj (loaded.symm.trans loadedBefore)
    have added : lens.addContexts raw = (.ok (document.addedContexts incoming),
        { lens with site := { lens.site with host } }) := by
      simp [addContexts, stored]
    refine ⟨(document.merge incoming).reread, ?_, rfl, fun part => ?_, fun changed => ?_⟩
    · rw [act, added, Host.save_eq_ok saved]
      rfl
    · refine ⟨document.entries part, List.Sublist.refl _, fun _ => rfl, ?_⟩
      rw [Kubeconfig.entries_reread, Kubeconfig.entries_merge]
      simp [novelties, added, loaded, read]
    · exact absurd (congrArg Kubeconfig.current (Host.reread_of_loadOrBlank loaded)) changed

/-- Whatever else happens, nothing is added. -/
theorem outcome_revises {after : Site} (outcome : lens.site.Outcome event after)
    (unwritten : event.writesFile = false) (noAdding : ∀ raw, event ≠ .addContexts raw)
    (nothing : lens.novelties event = {}) (loaded : lens.stored = .ok document) :
    ∃ left, after.host.loadOrBlank after.settings = .ok left ∧
      lens.Revises event document left := by
  cases outcome with
  | attempts attempts =>
      exact ⟨document, by rwa [attempts.host, attempts.settings], .of_same nothing⟩
  | surroundings same file =>
      refine ⟨document, ?_, .of_same nothing⟩
      rwa [same.settings, Host.loadOrBlank_congr (file unwritten)]
  | added raw => exact absurd rfl (noAdding raw)
  | cleared => exact ⟨document, loaded, .of_same nothing⟩
  | @removed name left host _ dropped promoted =>
      obtain ⟨_, before, loadedBefore, taken, saved⟩ := Switchboard.dropContext_eq_ok dropped
      obtain rfl : document = before :=
        Except.ok.inj (loaded.symm.trans (Host.loadOrBlank_of_load loadedBefore))
      refine ⟨left.reread, ?_, ?_, fun part => ?_, fun changed => ⟨name, rfl, ?_⟩⟩
      · rw [promoted.host, promoted.settings, Host.save_eq_ok saved]
        rfl
      · exact (Kubeconfig.removeContext_extra taken : left.extra = document.extra)
      · refine ⟨left.entries part, Kubeconfig.entries_removeContext taken part,
          fun another => absurd rfl (another name), ?_⟩
        rw [nothing, Kubeconfig.entries_reread]
        cases part <;> exact (List.append_nil _).symm
      · by_contra other
        have same := Kubeconfig.removeContext_current taken other
        have reread := congrArg Kubeconfig.current (Host.reread_of_loadOrBlank loaded)
        unfold Kubeconfig.reread at changed reread
        rw [same] at changed
        exact changed reread

/-- Every event revises the stored document, unless somebody else writes it. -/
theorem act_revises (unwritten : event.writesFile = false) (loaded : lens.stored = .ok document) :
    ∃ after, (lens.act event).stored = .ok after ∧ lens.Revises event document after := by
  have outcome := lens.act_outcome event
  cases event with
  | addContexts raw => exact addContexts_revises loaded raw
  | _ => exact outcome_revises outcome unwritten nofun rfl loaded

/-- A refused event changes nothing. -/
theorem act_of_refuses (refused : lens.refuses event = true) : lens.act event = lens := by
  cases event with
  | addContexts raw =>
      rcases Switchboard.addContexts_cases lens.site.settings lens.site.host raw with
        ⟨error, unchanged⟩ | ⟨_, _, _, _, _, _, _, stored⟩
      · rw [act, addContexts_of_refused unchanged]
      · simp [refuses, addContexts, stored, Except.isOk, Except.toBool] at refused
  | removeContext name =>
      cases answer : (lens.removeContext name).1 with
      | error error => exact removeContext_of_error answer
      | ok _ => simp [refuses, answer, Except.isOk, Except.toBool] at refused
  | _ => cases refused

/-! ## Runs -/

variable {events : List Event}

theorem lt_of_mem_introductions {part : Kubeconfig.Part} {time stamp : Nat} {entry : Entry}
    (present : (stamp, entry) ∈ lens.introductions part time events) : time < stamp := by
  induction events generalizing lens time with
  | nil => cases present
  | cons event rest ih =>
      rcases List.mem_append.mp present with now | later
      · obtain ⟨_, _, same⟩ := List.mem_map.mp now
        cases same
        exact Nat.lt_succ_self time
      · exact Nat.lt_of_succ_lt (ih later)

/-- The document can always be loaded, and what it says besides its lists stays. -/
theorem run_stored (unwritten : ∀ event ∈ events, event.writesFile = false)
    (loaded : lens.stored = .ok document) :
    ∃ now, (lens.run events).stored = .ok now ∧ now.extra = document.extra := by
  refine run_induction
    (P := fun later => ∃ now, later.stored = .ok now ∧ now.extra = document.extra)
    lens events ⟨document, loaded, rfl⟩ ?_
  rintro before event present ⟨now, loadedNow, same⟩
  obtain ⟨after, loadedAfter, revises⟩ := act_revises (unwritten event present) loadedNow
  exact ⟨after, loadedAfter, revises.extra.trans same⟩

/-- The entries of a list at the end are left of those that were there at first and of those that
arrived. -/
theorem run_remains (part : Kubeconfig.Part)
    (unwritten : ∀ event ∈ events, event.writesFile = false)
    (loaded : lens.stored = .ok document) (time : Nat) {arrived : List (Nat × Entry)}
    (same : document.entries part = arrived.map (·.2)) :
    ∃ kept,
      lens.Remains part time events (arrived ++ lens.introductions part time events) kept := by
  induction events generalizing lens document time arrived with
  | nil =>
      refine ⟨arrived, ⟨document, loaded, same⟩, by simp [introductions], ?_⟩
      intro stamp entry present earlier start _
      rw [List.prefix_nil.mp start]
      exact ⟨document, loaded, same ▸ List.mem_map.mpr ⟨_, present, rfl⟩⟩
  | cons event rest ih =>
      obtain ⟨after, loadedAfter, revises⟩ :=
        act_revises (unwritten event List.mem_cons_self) loaded
      obtain ⟨entries, left, _, split⟩ := revises.entries part
      obtain ⟨arrivedLeft, remains, rfl⟩ := List.sublist_map_iff.mp (same ▸ left)
      -- What is stored after the event, with its arrivals.
      have sameAfter : after.entries part = (arrivedLeft ++
          ((lens.novelties event).entries part).map ((time + 1, ·))).map (·.2) := by
        rw [split, List.map_append, List.map_map]
        exact congrArg _ (List.map_id _).symm
      obtain ⟨kept, stored, sublist, since⟩ :=
        ih (fun event present => unwritten event (List.mem_cons_of_mem _ present)) loadedAfter
          (time + 1) sameAfter
      refine ⟨kept, stored, ?_, ?_⟩
      · refine sublist.trans ?_
        rw [introductions, List.append_assoc]
        exact remains.append_right _
      · intro stamp entry present earlier start old
        rcases List.prefix_cons_iff.mp start with rfl | ⟨earlierRest, rfl, startRest⟩
        -- An entry that is that old is none of those that arrive later.
        · rw [List.length_nil, Nat.add_zero] at old
          refine ⟨document, loaded, same ▸ List.mem_map.mpr ⟨(stamp, entry), ?_, rfl⟩⟩
          rcases List.mem_append.mp (sublist.subset present) with first | later
          · rcases List.mem_append.mp first with remained | new
            · exact remains.subset remained
            · obtain ⟨_, _, equal⟩ := List.mem_map.mp new
              cases equal
              exact absurd old (Nat.not_succ_le_self time)
          · exact absurd old (Nat.not_le_of_lt (Nat.lt_of_succ_lt (lt_of_mem_introductions later)))
        · refine since stamp entry present earlierRest startRest ?_
          rw [List.length_cons] at old
          omega

/-- The stored document is kept faithfully.  It can always be loaded, and what it says besides its
lists stays.  Each event revises it, and an addition or a removal that is refused changes nothing.
The entries that are left in the end are those that arrived, in this order, each of them stored
ever since. -/
theorem run_faithful (lens : Lens) (document : Kubeconfig) (events : List Event)
    (loaded : lens.stored = .ok document)
    (unwritten : ∀ event ∈ events, event.writesFile = false) :
    (∀ earlier, earlier <+: events →
      ∃ now, (lens.run earlier).stored = .ok now ∧ now.extra = document.extra) ∧
    (∀ earlier event, earlier ++ [event] <+: events →
      (∃ before after, (lens.run earlier).stored = .ok before ∧
        (lens.run (earlier ++ [event])).stored = .ok after ∧
        (lens.run earlier).Revises event before after) ∧
      ((lens.run earlier).refuses event = true →
        lens.run (earlier ++ [event]) = lens.run earlier)) ∧
    ∀ part, ∃ kept, lens.Remains part 0 events (lens.arrivals document part events) kept := by
  have run_snoc : ∀ earlier event,
      lens.run (earlier ++ [event]) = (lens.run earlier).act event :=
    fun earlier event => lens.run_append earlier [event]
  refine ⟨fun earlier start => ?_, fun earlier event start => ⟨?_, fun refused => ?_⟩,
    fun part => ?_⟩
  · exact run_stored (fun event present => unwritten event (start.subset present)) loaded
  · have earlierUnwritten : ∀ other ∈ earlier, other.writesFile = false := fun other present =>
      unwritten other (start.subset (List.mem_append_left _ present))
    obtain ⟨before, loadedBefore, _⟩ := run_stored earlierUnwritten loaded
    obtain ⟨after, loadedAfter, revises⟩ := act_revises
      (unwritten event (start.subset (List.mem_append_right _ (List.mem_singleton_self event))))
      loadedBefore
    exact ⟨before, after, loadedBefore, run_snoc earlier event ▸ loadedAfter, revises⟩
  · rw [run_snoc]
    exact act_of_refuses refused
  · refine run_remains part unwritten loaded 0 ?_
    rw [List.map_map]
    exact (List.map_id _).symm

/-- A context is removed, comes back with another body, and is the last one then.  When nothing can
be stored any more, another one is not removed. -/
theorem run_faithful_returned :
    let lens := onHost (.defaults none) (.storing ["dev", "prod"])
    let events : List Event :=
      [.removeContext "dev", .addContexts "contexts: [{name: dev, color: red}]",
        .obstruct [.replace], .removeContext "prod"]
    lens.stored.isOk = true ∧ (∀ event ∈ events, event.writesFile = false) ∧
      (lens.run (events.take 3)).refuses (.removeContext "prod") = true ∧
      ∃ document kept, lens.stored = .ok document ∧
        lens.Remains .contexts 0 events (lens.arrivals document .contexts events) kept ∧
        kept.map (·.2.name) = ["prod", "dev"] := by
  intro lens events
  have unwritten : ∀ event ∈ events, event.writesFile = false := by decide
  obtain ⟨_, _, remains⟩ := run_faithful lens _ events rfl unwritten
  obtain ⟨kept, remaining⟩ := remains .contexts
  obtain ⟨final, loaded, same⟩ := remaining.stored
  have names : (lens.run events).stored.toOption.map (·.contextNames) = some ["prod", "dev"] := by
    decide +kernel
  rw [loaded] at names
  refine ⟨rfl, unwritten, by decide +kernel, _, kept, rfl, remaining, ?_⟩
  have finalNames : final.contexts.map (·.name) = ["prod", "dev"] := Option.some.inj names
  rw [show final.contexts = kept.map (·.2) from same, List.map_map] at finalNames
  exact finalNames

end Lens
end KubeLens
