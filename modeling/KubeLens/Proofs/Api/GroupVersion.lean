import KubeLens.Api.GroupVersion
import KubeLens.Proofs.Text.Separators
import KubeLens.Proofs.Text.Trimming

/-!
# Groups and versions that were read

An `apiVersion` is read exactly when it has one slash between two parts that are not blank, or is a
version alone.  Neither part of what was read holds a slash or has blanks around it.  So the text of
an `apiVersion` tells groups and versions apart, and is read back.
-/

namespace KubeLens

namespace GroupVersion

variable {raw : String} {gv : GroupVersion}

/-! ## What is read -/

/-- Whether a text is this group and this version, with one slash between them and any blanks around
each. -/
def IsGrouped (raw : String) (gv : GroupVersion) : Prop :=
  ∃ before after : String, raw = before ++ "/" ++ after ∧
    ('/' ∉ before.toList ∧ '/' ∉ after.toList) ∧
    ((∃ c ∈ before.toList, Text.isBlank c = false) ∧
      ∃ c ∈ after.toList, Text.isBlank c = false) ∧
    gv = ⟨Text.trim before, Text.trim after⟩

/-- Whether a text is this version of the core group, with any blanks around it. -/
def IsAlone (raw : String) (gv : GroupVersion) : Prop :=
  '/' ∉ raw.toList ∧ (∃ c ∈ raw.toList, Text.isBlank c = false) ∧ gv = ⟨"", Text.trim raw⟩

theorem parse_eq_ok_iff : parse raw = .ok gv ↔ IsGrouped raw gv := by
  constructor
  · intro read
    unfold parse at read
    split at read
    · cases read
    rename_i before after cut
    obtain ⟨absent, whole⟩ := Text.splitOnce_eq_some_iff.mp cut
    split at read
    · cases read
    rename_i single
    dsimp only at read
    split at read
    · cases read
    rename_i group
    split at read
    · cases read
    rename_i version
    cases read
    rw [List.isEmpty_iff] at group version
    refine ⟨String.ofList before, String.ofList after, ?_, ?_, ?_, ?_⟩
    · rw [← String.toList_inj]
      simpa using whole
    · simpa using ⟨absent, single⟩
    · simpa using ⟨Text.trimChars_ne_nil_iff.mp group, Text.trimChars_ne_nil_iff.mp version⟩
    · simp [Text.trim]
  · rintro ⟨before, after, rfl, ⟨absent, single⟩, ⟨group, version⟩, rfl⟩
    have chars : (before ++ "/" ++ after).toList = before.toList ++ '/' :: after.toList := by simp
    have someGroup := Text.trimChars_ne_nil_iff.mpr group
    have someVersion := Text.trimChars_ne_nil_iff.mpr version
    unfold parse
    rw [chars, Text.splitOnce_append absent]
    dsimp only
    rw [if_neg single, if_neg (by rwa [List.isEmpty_iff]), if_neg (by rwa [List.isEmpty_iff])]
    rfl

theorem IsGrouped.slash (grouped : IsGrouped raw gv) : '/' ∈ raw.toList := by
  obtain ⟨before, after, rfl, -⟩ := grouped
  simp

/-- A slash is no blank, so that it is not trimmed away. -/
theorem slash_mem_trimChars_iff {cs : List Char} : '/' ∈ Text.trimChars cs ↔ '/' ∈ cs :=
  ⟨Text.mem_of_mem_trimChars, Text.mem_trimChars (by decide)⟩

theorem alone_iff {cs : List Char} :
    (!(Text.trimChars cs).isEmpty && !(Text.trimChars cs).contains '/') = true ↔
      '/' ∉ cs ∧ ∃ c ∈ cs, Text.isBlank c = false := by
  simp only [Bool.and_eq_true, Bool.not_eq_true', List.isEmpty_eq_false_iff, List.contains_eq_mem,
    decide_eq_false_iff_not, slash_mem_trimChars_iff, Text.trimChars_ne_nil_iff, and_comm]

theorem parseAllowCore_eq_ok_iff :
    parseAllowCore raw = .ok gv ↔ IsGrouped raw gv ∨ IsAlone raw gv := by
  unfold parseAllowCore
  dsimp only
  split <;> rename_i alone
  · rw [alone_iff] at alone
    constructor
    · intro read
      cases read
      exact .inr ⟨alone.1, alone.2, rfl⟩
    · rintro (grouped | ⟨-, -, rfl⟩)
      · exact absurd grouped.slash alone.1
      · rfl
  · rw [parse_eq_ok_iff]
    exact ⟨.inl, fun read => read.resolve_right fun ⟨whole, solid, _⟩ =>
      alone (alone_iff.mpr ⟨whole, solid⟩)⟩

/-! ## What the text of an `apiVersion` tells -/

/-- Whether the slash in an `apiVersion` can only stand between its group and its version. -/
structure IsPlain (gv : GroupVersion) : Prop where
  group_whole : '/' ∉ gv.group.toList
  version_whole : '/' ∉ gv.version.toList

/-- Whatever is read is plain. -/
theorem isPlain_of_parseAllowCore (read : parseAllowCore raw = .ok gv) : gv.IsPlain := by
  rcases parseAllowCore_eq_ok_iff.mp read with grouped | ⟨whole, -, rfl⟩
  · obtain ⟨before, after, -, ⟨group, version⟩, -, rfl⟩ := grouped
    exact ⟨by simpa [slash_mem_trimChars_iff] using group,
      by simpa [slash_mem_trimChars_iff] using version⟩
  · exact ⟨List.not_mem_nil, by simpa [slash_mem_trimChars_iff] using whole⟩

theorem isCore_iff {gv : GroupVersion} : gv.isCore = true ↔ gv.group = "" :=
  String.isEmpty_iff

theorem toList_apiVersion (gv : GroupVersion) :
    gv.apiVersion.toList =
      if gv.isCore then gv.version.toList
      else gv.group.toList ++ '/' :: gv.version.toList := by
  unfold apiVersion
  split
  · rfl
  · simp

/-- Plain groups and versions with the same text are the same. -/
theorem IsPlain.apiVersion_inj {first second : GroupVersion} (plain : first.IsPlain)
    (alsoPlain : second.IsPlain) (same : first.apiVersion = second.apiVersion) :
    first = second := by
  have chars : first.apiVersion.toList = second.apiVersion.toList := congrArg _ same
  rw [toList_apiVersion, toList_apiVersion] at chars
  have equal : first.group = second.group ∧ first.version = second.version := by
    split at chars <;> rename_i core <;> split at chars <;> rename_i alsoCore
    · rw [isCore_iff] at core alsoCore
      exact ⟨core.trans alsoCore.symm, String.toList_inj.mp chars⟩
    · exact absurd (chars ▸ List.mem_append_right _ List.mem_cons_self) plain.version_whole
    · exact absurd (chars ▸ List.mem_append_right _ List.mem_cons_self) alsoPlain.version_whole
    · obtain ⟨group, version⟩ :=
        (Text.append_separator_inj plain.group_whole alsoPlain.group_whole).mp chars
      exact ⟨String.toList_inj.mp group, String.toList_inj.mp version⟩
  cases first
  cases second
  exact (GroupVersion.mk.injEq ..).mpr equal

/-! ## What was read is written and read back -/

theorem IsGrouped.apiVersion (grouped : IsGrouped raw gv) : IsGrouped gv.apiVersion gv := by
  obtain ⟨before, after, -, ⟨whole, single⟩, ⟨⟨c, inBefore, solid⟩, d, inAfter, alsoSolid⟩, rfl⟩ :=
    grouped
  have group := Text.mem_trimChars solid inBefore
  have version := Text.mem_trimChars alsoSolid inAfter
  have named : Text.trim before ≠ "" := fun empty => by
    rw [← Text.toList_trim, empty] at group
    exact List.not_mem_nil group
  refine ⟨Text.trim before, Text.trim after, ?_, ?_, ?_, by simp⟩
  · rw [GroupVersion.apiVersion, if_neg (mt isCore_iff.mp named)]
  · simpa [slash_mem_trimChars_iff] using ⟨whole, single⟩
  · exact ⟨⟨c, by simpa using group, solid⟩, d, by simpa using version, alsoSolid⟩

theorem IsAlone.apiVersion (alone : IsAlone raw gv) : IsAlone gv.apiVersion gv := by
  obtain ⟨whole, ⟨c, present, solid⟩, rfl⟩ := alone
  have written : GroupVersion.apiVersion ⟨"", Text.trim raw⟩ = Text.trim raw := rfl
  rw [written]
  refine ⟨?_, ⟨c, ?_, solid⟩, by rw [Text.trim_trim]⟩
  · rwa [Text.toList_trim, slash_mem_trimChars_iff]
  · rw [Text.toList_trim]
    exact Text.mem_trimChars solid present

theorem parseAllowCore_apiVersion (read : parseAllowCore raw = .ok gv) :
    parseAllowCore gv.apiVersion = .ok gv := by
  rw [parseAllowCore_eq_ok_iff] at read ⊢
  exact read.imp IsGrouped.apiVersion IsAlone.apiVersion

/-- A group and a version are read from the texts with one slash between two parts that are not
blank, and a version of the core group from the texts without a slash that are not blank.  Blanks
around the parts do not count.  What was read is read back from its own text, so that two texts mean
the same exactly when they are written alike. -/
theorem parse_canonical :
    (∀ raw gv, parse raw = .ok gv ↔ IsGrouped raw gv) ∧
    (∀ raw gv, parseAllowCore raw = .ok gv ↔ IsGrouped raw gv ∨ IsAlone raw gv) ∧
    (∀ raw gv, parse raw = .ok gv ∨ parseAllowCore raw = .ok gv →
      parseAllowCore gv.apiVersion = .ok gv) ∧
    ∀ raw other gv otherGv,
      (parse raw = .ok gv ∨ parseAllowCore raw = .ok gv) →
      (parse other = .ok otherGv ∨ parseAllowCore other = .ok otherGv) →
      (gv = otherGv ↔ gv.apiVersion = otherGv.apiVersion) := by
  have either : ∀ {raw gv}, (parse raw = .ok gv ∨ parseAllowCore raw = .ok gv) →
      parseAllowCore raw = .ok gv := by
    rintro raw gv (read | read)
    · exact parseAllowCore_eq_ok_iff.mpr (.inl (parse_eq_ok_iff.mp read))
    · exact read
  refine ⟨fun _ _ => parse_eq_ok_iff, fun _ _ => parseAllowCore_eq_ok_iff,
    fun _ _ read => parseAllowCore_apiVersion (either read),
    fun raw other gv otherGv read alsoRead => ⟨congrArg _, fun same => ?_⟩⟩
  have back := parseAllowCore_apiVersion (either read)
  rw [same, parseAllowCore_apiVersion (either alsoRead)] at back
  exact (Except.ok.inj back).symm

/-- A group and a version with blanks around them, and the same version of the core group. -/
theorem parse_canonical_apps :
    let apps : GroupVersion := ⟨"apps", "v1"⟩
    let core : GroupVersion := ⟨"", "v1"⟩
    (parse " apps\u00a0/ v1\n" = .ok apps ∧ parseAllowCore "\tv1" = .ok core) ∧
      parseAllowCore apps.apiVersion = .ok apps ∧
      (apps = core ↔ apps.apiVersion = core.apiVersion) := by
  intro apps core
  obtain ⟨-, -, back, alike⟩ := parse_canonical
  have grouped : parse " apps\u00a0/ v1\n" = .ok apps := by decide +kernel
  have alone : parseAllowCore "\tv1" = .ok core := by decide +kernel
  exact ⟨⟨grouped, alone⟩, back _ _ (.inl grouped), alike _ _ _ _ (.inl grouped) (.inr alone)⟩

end GroupVersion
end KubeLens
