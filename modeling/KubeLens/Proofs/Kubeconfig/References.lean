import KubeLens.Proofs.Kubeconfig.Merging
import KubeLens.Proofs.Kubeconfig.Succession

/-!
# References of contexts

A context refers to a cluster and to a user by name, and means the first entry of this name.
Merging and removing contexts leave no reference without an entry, and no context that stays comes
to mean another entry.  What a removed context referred to goes with it, unless another context
refers to it too.
-/

namespace KubeLens

/-- What a context refers to. -/
inductive Reference
  | cluster
  | user
  deriving DecidableEq, Repr

namespace Reference

/-- The name that a context refers to. -/
def name? : Reference → Entry → Option String
  | cluster => Entry.cluster?
  | user => Entry.user?

/-- The list that the name is looked up in. -/
def part : Reference → Kubeconfig.Part
  | cluster => .clusters
  | user => .users

/-- The first entry of a document with a name. -/
def entry? : Reference → Kubeconfig → String → Option Entry
  | cluster => Kubeconfig.cluster?
  | user => Kubeconfig.user?

theorem forall_iff {P : Reference → Prop} :
    (∀ reference, P reference) ↔ P cluster ∧ P user := by
  constructor
  · exact fun all => ⟨all cluster, all user⟩
  · rintro ⟨ofCluster, ofUser⟩ (_ | _)
    · exact ofCluster
    · exact ofUser

end Reference

namespace Entry

/-- A context that refers to a cluster and to a user. -/
def referring (name cluster user : String) : Entry :=
  ⟨name, [("context", .map [(.str "cluster", .str cluster), (.str "user", .str user)])]⟩

variable {name cluster user : String}

@[simp] theorem referring_name : (referring name cluster user).name = name := rfl

@[simp] theorem cluster?_referring (named : cluster ≠ "") :
    (referring name cluster user).cluster? = some cluster := by
  simp [cluster?, reference?, referring, Assoc.get?, Yaml.Value.member?, Yaml.Value.same,
    Yaml.Value.asStr?, String.isEmpty_iff, named]

@[simp] theorem user?_referring (named : user ≠ "") :
    (referring name cluster user).user? = some user := by
  simp [user?, reference?, referring, Assoc.get?, Yaml.Value.member?, Yaml.Value.same,
    Yaml.Value.asStr?, String.isEmpty_iff, named]

end Entry

namespace Kubeconfig

variable {document incoming left : Kubeconfig} {reference : Reference} {context : Entry}
  {name : String}

/-- The entry that a context means. -/
def target? (document : Kubeconfig) (reference : Reference) (context : Entry) : Option Entry :=
  (reference.name? context).bind (reference.entry? document)

/-- Whether every context refers to entries that there are. -/
def Closed (document : Kubeconfig) : Prop :=
  ∀ context ∈ document.contexts, ∀ reference : Reference, ∀ name ∈ reference.name? context,
    name ∈ (document.entries reference.part).map (·.name)

theorem entry?_eq_find? (reference : Reference) (document : Kubeconfig) (name : String) :
    reference.entry? document name =
      (document.entries reference.part).find? (·.name == name) := by
  cases reference <;> rfl

theorem entry?_isSome_iff :
    (reference.entry? document name).isSome = true ↔
      name ∈ (document.entries reference.part).map (·.name) := by
  rw [entry?_eq_find?, List.find?_isSome]
  simp

/-! ## Merging -/

/-- The new entry of a name that is not stored is the first one that is incoming. -/
theorem find?_newEntries {stored : List Entry} (incoming : List Entry)
    (absent : name ∉ stored.map (·.name)) :
    (newEntries stored incoming).find? (·.name == name) =
      incoming.find? (·.name == name) := by
  induction incoming generalizing stored with
  | nil => rfl
  | cons entry rest ih =>
      by_cases same : entry.name = name
      · subst same
        simp [newEntries_cons_of_not_mem absent]
      · have later : name ∉ (stored ++ [entry]).map (·.name) := by
          simpa [Ne.symm same] using absent
        rw [newEntries_cons, List.find?_append, ih later]
        split <;> simp [same]

/-- A name means the stored entry, or else the incoming one. -/
theorem entry?_merge (reference : Reference) (document incoming : Kubeconfig) (name : String) :
    reference.entry? (document.merge incoming) name =
      (reference.entry? document name).or (reference.entry? incoming name) := by
  rw [entry?_eq_find?, entries_merge, entries_additions, List.find?_append, ← entry?_eq_find?]
  cases found : reference.entry? document name with
  | some entry => rfl
  | none =>
      have absent : name ∉ (document.entries reference.part).map (·.name) := by
        simp [← entry?_isSome_iff, found]
      rw [find?_newEntries _ absent, ← entry?_eq_find?]

/-- A context means the stored entry that it refers to, or else the incoming one. -/
theorem target?_merge (reference : Reference) (document incoming : Kubeconfig) (context : Entry) :
    (document.merge incoming).target? reference context =
      (document.target? reference context).or (incoming.target? reference context) := by
  unfold target?
  cases reference.name? context with
  | none => rfl
  | some name => exact entry?_merge reference document incoming name

theorem newEntries_subset (stored incoming : List Entry) :
    newEntries stored incoming ⊆ incoming := by
  intro entry added
  rw [newEntries_eq_firstEntries] at added
  obtain ⟨⟨_, place⟩, kept, rfl⟩ := List.mem_map.mp added
  exact (List.mem_zipIdx' (List.mem_filter.mp kept).1).2 ▸ List.getElem_mem _

theorem Closed.target?_isSome (closed : document.Closed) (present : context ∈ document.contexts)
    (named : reference.name? context = some name) :
    (document.target? reference context).isSome = true := by
  unfold target?
  rw [named]
  exact entry?_isSome_iff.mpr (closed context present reference name named)

theorem Closed.merge (closed : document.Closed) (closedIncoming : incoming.Closed) :
    (document.merge incoming).Closed := by
  intro context present reference name named
  rw [← entry?_isSome_iff, entry?_merge, Option.isSome_or, Bool.or_eq_true,
    entry?_isSome_iff, entry?_isSome_iff]
  rcases List.mem_append.mp present with stored | added
  · exact .inl (closed context stored reference name named)
  · exact .inr (closedIncoming context (newEntries_subset _ _ added) reference name named)

/-- A stored context means what it meant before. -/
theorem Closed.target?_merge (closed : document.Closed) (incoming : Kubeconfig)
    (present : context ∈ document.contexts) (reference : Reference) :
    (document.merge incoming).target? reference context = document.target? reference context := by
  rw [Kubeconfig.target?_merge]
  cases named : reference.name? context with
  | none => simp [target?, named]
  | some name =>
      obtain ⟨entry, found⟩ := Option.isSome_iff_exists.mp (closed.target?_isSome present named)
      rw [found, Option.some_or]

/-! ## Removing -/

/-- Whether an entry was referred to by a context that was removed, and is not by any other. -/
def Forsaken (reference : Reference) (removed : Entry) (others : List Entry) (entry : Entry) :
    Prop :=
  reference.name? removed = some entry.name ∧
    ∀ other ∈ others, reference.name? other ≠ some entry.name

instance (reference : Reference) (removed : Entry) (others : List Entry) (entry : Entry) :
    Decidable (Forsaken reference removed others entry) :=
  inferInstanceAs (Decidable (_ ∧ ∀ other ∈ others, _))

/-- What is dropped is what is forsaken. -/
theorem dropUnreferenced_eq_filter (reference : Reference) (removed : Entry)
    (others entries : List Entry) :
    dropUnreferenced reference.name? others (reference.name? removed) entries =
      entries.filter fun entry => ¬ Forsaken reference removed others entry := by
  unfold dropUnreferenced
  cases named : reference.name? removed with
  | none =>
      refine (List.filter_eq_self.mpr fun entry _ => decide_eq_true ?_).symm
      rintro ⟨referred, _⟩
      cases named.symm.trans referred
  | some name =>
      dsimp only
      split
      · rename_i used
        refine (List.filter_eq_self.mpr fun entry _ => decide_eq_true ?_).symm
        rintro ⟨referred, unused⟩
        obtain rfl := Option.some.inj (named.symm.trans referred)
        obtain ⟨other, present, same⟩ := List.any_eq_true.mp used
        exact unused other present (eq_of_beq same)
      · rename_i unused
        refine List.filter_congr fun entry _ => Bool.eq_iff_iff.mpr ?_
        rw [bne_iff_ne, decide_eq_true_iff]
        constructor
        · rintro different ⟨referred, _⟩
          exact different (Option.some.inj (named.symm.trans referred)).symm
        · rintro kept rfl
          exact kept ⟨named, fun other present same =>
            unused (List.any_eq_true.mpr ⟨other, present, beq_iff_eq.mpr same⟩)⟩

/-- The document without the first context of a name, if there is one. -/
def without (document : Kubeconfig) (name : String) : Kubeconfig :=
  (document.removeContext name).getD document

theorem without_of_not_mem (absent : name ∉ document.contextNames) :
    document.without name = document := by
  unfold without
  rw [Option.not_isSome_iff_eq_none.mp (mt removeContext_isSome_iff.mp absent), Option.getD_none]

/-- The first context of the name is taken out, and so is what is forsaken then. -/
theorem removeContext_of_mem (present : name ∈ document.contextNames) :
    document.removeContext name = some (document.without name) ∧
      ∃ before removed after, document.contexts = before ++ removed :: after ∧
        removed.name = name ∧ name ∉ before.map (·.name) ∧
        (document.without name).contexts = before ++ after ∧
        ∀ reference : Reference, (document.without name).entries reference.part =
          (document.entries reference.part).filter fun entry =>
            ¬ Forsaken reference removed (before ++ after) entry := by
  obtain ⟨left, taken⟩ := Option.isSome_iff_exists.mp (removeContext_isSome_iff.mpr present)
  have same : document.without name = left := by rw [without, taken, Option.getD_some]
  rw [same]
  refine ⟨taken, ?_⟩
  obtain ⟨removed, found, rfl⟩ := Option.map_eq_some_iff.mp taken
  obtain ⟨named, before, after, parts, others⟩ := List.find?_eq_some_iff_append.mp found
  have absent : ∀ entry ∈ before, ¬ (entry.name == name) = true := by simpa using others
  have rest : document.contexts.eraseP (·.name == name) = before ++ after := by
    rw [parts, List.eraseP_append_right _ absent]
    simp [named]
  refine ⟨before, removed, after, parts, eq_of_beq named, by simpa using absent, rest, ?_⟩
  intro reference
  rw [← rest]
  cases reference with
  | cluster => exact dropUnreferenced_eq_filter .cluster removed _ document.clusters
  | user => exact dropUnreferenced_eq_filter .user removed _ document.users

/-- What a context that stays refers to is not forsaken. -/
theorem entry?_without (present : context ∈ (document.without name).contexts) {sought : String}
    (named : reference.name? context = some sought) :
    reference.entry? (document.without name) sought = reference.entry? document sought := by
  by_cases known : name ∈ document.contextNames
  · obtain ⟨_, before, removed, after, _, _, _, rest, kept⟩ := removeContext_of_mem known
    rw [rest] at present
    rw [entry?_eq_find?, entry?_eq_find?, kept, List.find?_filter]
    refine congrArg (List.find? · _) (funext fun entry => ?_)
    by_cases same : entry.name = sought
    · subst same
      have stays : ¬ Forsaken reference removed (before ++ after) entry :=
        fun forsaken => forsaken.2 context present named
      simp [stays]
    · simp [same]
  · rw [without_of_not_mem known]

/-- A context that stays means what it meant before. -/
theorem target?_without (present : context ∈ (document.without name).contexts)
    (reference : Reference) :
    (document.without name).target? reference context = document.target? reference context := by
  unfold target?
  cases named : reference.name? context with
  | none => rfl
  | some sought => exact entry?_without present named

theorem Closed.without (closed : document.Closed) (name : String) :
    (document.without name).Closed := by
  by_cases known : name ∈ document.contextNames
  · intro context present reference sought named
    have before : context ∈ document.contexts :=
      (entries_removeContext (removeContext_of_mem known).1 .contexts).subset present
    rw [← entry?_isSome_iff, entry?_without present named, entry?_isSome_iff]
    exact closed context before reference sought named
  · rwa [without_of_not_mem known]

/-! ## Closed documents -/

/-- Merging closed documents and removing a context from one gives closed documents, in which every
context that is still there means what it meant before.  Where there is a context of a name it can
be removed: the first one of the name goes, and of the entries in the other lists go exactly those
that it referred to and that no context which is left refers to. -/
theorem closed_preserved {document incoming : Kubeconfig} (closed : document.Closed)
    (closedIncoming : incoming.Closed) (name : String) :
    ((document.merge incoming).Closed ∧
      ∀ context ∈ document.contexts, ∀ reference,
        (document.merge incoming).target? reference context =
          document.target? reference context) ∧
    ((document.without name).Closed ∧
      ∀ context ∈ (document.without name).contexts, ∀ reference,
        (document.without name).target? reference context =
          document.target? reference context) ∧
    (name ∈ document.contextNames →
      document.removeContext name = some (document.without name) ∧
        ∃ before removed after, document.contexts = before ++ removed :: after ∧
          removed.name = name ∧ name ∉ before.map (·.name) ∧
          (document.without name).contexts = before ++ after ∧
          ∀ reference : Reference, (document.without name).entries reference.part =
            (document.entries reference.part).filter fun entry =>
              ¬ Forsaken reference removed (before ++ after) entry) := by
  refine ⟨⟨closed.merge closedIncoming, fun context present reference => ?_⟩,
    ⟨closed.without name, fun context present reference => ?_⟩, removeContext_of_mem⟩
  · exact closed.target?_merge incoming present reference
  · exact target?_without present reference

/-- The contexts `a` and `b` share a cluster.  With `a` goes its user, but neither the cluster nor
an entry that nobody refers to. -/
theorem closed_preserved_shared :
    let document : Kubeconfig :=
      { clusters := [⟨"c", []⟩, ⟨"spare", []⟩], users := [⟨"u", []⟩, ⟨"v", []⟩]
        contexts := [.referring "a" "c" "u", .referring "b" "c" "v"] }
    let incoming : Kubeconfig :=
      { clusters := [⟨"c", [("cluster", .null)]⟩], users := [⟨"w", []⟩]
        contexts := [.referring "d" "c" "w"] }
    document.Closed ∧ incoming.Closed ∧
      (document.merge incoming).Closed ∧
      (document.without "a").Closed ∧
      (document.without "a").clusters.map (·.name) = ["c", "spare"] ∧
      (document.without "a").users.map (·.name) = ["v"] ∧
      ∀ reference, (document.without "a").target? reference (.referring "b" "c" "v") =
        document.target? reference (.referring "b" "c" "v") := by
  intro document incoming
  have closed : document.Closed := by
    simp [document, Closed, Reference.forall_iff, Reference.name?, Reference.part, entries]
  have closedIncoming : incoming.Closed := by
    simp [incoming, Closed, Reference.forall_iff, Reference.name?, Reference.part, entries]
  obtain ⟨⟨merged, _⟩, ⟨left, same⟩, _⟩ := closed_preserved closed closedIncoming "a"
  have taken : document.without "a" =
      { document with
        contexts := [.referring "b" "c" "v"]
        users := [⟨"v", []⟩] } := by
    simp [document, without, removeContext, context?, dropUnreferenced]
  refine ⟨closed, closedIncoming, merged, left, ?_, ?_, same _ ?_⟩ <;> rw [taken]
  · rfl
  · rfl
  · exact List.mem_cons_self

end Kubeconfig
end KubeLens
