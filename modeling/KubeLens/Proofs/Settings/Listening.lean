import KubeLens.Proofs.Text.Numeral
import KubeLens.Settings

/-!
# Where the server listens

The port is read from `SERVER_PORT` when that is set, and otherwise from `PORT`.  A variable that is
blank can be removed without a difference, but for one: a blank `SERVER_PORT` still hides `PORT`.
-/

namespace KubeLens

namespace Lookup

/-- The environment without some variables. -/
def without (lookup : Lookup) (names : List String) : Lookup := fun name =>
  if name ∈ names then none else lookup name

/-- Whether a variable is set to blanks alone. -/
def IsBlank (lookup : Lookup) (name : String) : Prop :=
  ∃ raw, lookup name = some raw ∧ Text.isBlankText raw = true

/-- Whether a variable is set to a text that is not blank. -/
def Holds (lookup : Lookup) (name raw : String) : Prop :=
  lookup name = some raw ∧ Text.isBlankText raw = false

variable {lookup : Lookup} {names : List String} {name raw : String}

theorem without_of_mem (removed : name ∈ names) : lookup.without names name = none :=
  if_pos removed

theorem without_of_not_mem (kept : name ∉ names) : lookup.without names name = lookup name :=
  if_neg kept

theorem IsBlank.not_holds (blank : lookup.IsBlank name) : ¬ lookup.Holds name raw := by
  rintro ⟨set, solid⟩
  obtain ⟨other, alsoSet, empty⟩ := blank
  cases set.symm.trans alsoSet
  exact Bool.false_ne_true (solid.symm.trans empty)

/-- Removing blank variables leaves those that are not blank. -/
theorem holds_without_iff (blank : ∀ name ∈ names, lookup.IsBlank name) :
    (lookup.without names).Holds name raw ↔ lookup.Holds name raw := by
  by_cases removed : name ∈ names
  · refine ⟨fun holds => ?_, fun holds => absurd holds (blank name removed).not_holds⟩
    cases (without_of_mem removed).symm.trans holds.1
  · unfold Holds
    rw [without_of_not_mem removed]

theorem nonBlank_eq_some_iff : Settings.nonBlank lookup name = some raw ↔ lookup.Holds name raw := by
  simp [Settings.nonBlank, Holds, Option.filter_eq_some_iff]

end Lookup

namespace Listener

variable {lookup : Lookup} {names : List String} {raw : String} {listener : Listener}

/-- Whether the port is read from this text. -/
def Chooses (lookup : Lookup) (raw : String) : Prop :=
  lookup.Holds "SERVER_PORT" raw ∨ (lookup "SERVER_PORT" = none ∧ lookup.Holds "PORT" raw)

/-- The host that an environment asks for. -/
def hostOf (lookup : Lookup) : String :=
  ((Settings.nonBlank lookup "SERVER_HOST").map Text.trim).getD "0.0.0.0"

theorem portText_eq_some_iff : portText lookup = some raw ↔ Chooses lookup raw := by
  simp only [portText, Chooses, Lookup.Holds, Option.filter_eq_some_iff, Option.or_eq_some_iff,
    Bool.not_eq_true', or_and_right, and_assoc]

theorem portText_eq_none_iff : portText lookup = none ↔ ∀ raw, ¬ Chooses lookup raw := by
  simp only [Option.eq_none_iff_forall_ne_some, ne_eq, portText_eq_some_iff]

theorem ofLookup_of_not_chooses (free : ∀ raw, ¬ Chooses lookup raw) :
    ofLookup lookup = .ok { host := hostOf lookup } := by
  unfold ofLookup
  rw [portText_eq_none_iff.mpr free]
  rfl

theorem ofLookup_of_port {port : Nat} (chosen : Chooses lookup raw)
    (read : Text.readNumeral (Nat.pow 2 16) (Text.trim raw) = .ok port) :
    ofLookup lookup = .ok ⟨hostOf lookup, port⟩ := by
  unfold ofLookup
  rw [portText_eq_some_iff.mpr chosen]
  dsimp only
  rw [read]
  rfl

theorem ofLookup_of_fault {fault : Text.NumeralFault} (chosen : Chooses lookup raw)
    (read : Text.readNumeral (Nat.pow 2 16) (Text.trim raw) = .error fault) :
    ofLookup lookup = .error ⟨raw, fault⟩ := by
  unfold ofLookup
  rw [portText_eq_some_iff.mpr chosen]
  dsimp only
  rw [read]

/-- The port is read from one text at most. -/
theorem Chooses.unique {other : String} (chosen : Chooses lookup raw) (also : Chooses lookup other) :
    raw = other :=
  Option.some.inj
    ((portText_eq_some_iff.mpr chosen).symm.trans (portText_eq_some_iff.mpr also))

/-- A listener is found when the chosen text is a numeral of 16 bits, or when there is none. -/
theorem ofLookup_eq_ok_iff :
    ofLookup lookup = .ok listener ↔ listener.host = hostOf lookup ∧
      ((∃ raw, Chooses lookup raw ∧ Text.IsNumeral (Text.trim raw) listener.port ∧
          listener.port < Nat.pow 2 16) ∨
        (∀ raw, ¬ Chooses lookup raw) ∧ listener.port = 3001) := by
  obtain ⟨host, port⟩ := listener
  cases text : portText lookup with
  | none =>
      have free := portText_eq_none_iff.mp text
      rw [ofLookup_of_not_chooses free]
      simp [free, eq_comm]
  | some raw =>
      have chosen := portText_eq_some_iff.mp text
      have bound : ¬ ∀ raw, ¬ Chooses lookup raw := fun free => free raw chosen
      have only : (∃ other, Chooses lookup other ∧ Text.IsNumeral (Text.trim other) port ∧
          port < Nat.pow 2 16) ↔ Text.IsNumeral (Text.trim raw) port ∧ port < Nat.pow 2 16 :=
        ⟨fun ⟨_, also, numeral⟩ => chosen.unique also ▸ numeral,
          fun numeral => ⟨raw, chosen, numeral⟩⟩
      rw [only, ← Text.readNumeral_eq_ok_iff]
      cases read : Text.readNumeral (Nat.pow 2 16) (Text.trim raw) with
      | ok other =>
          rw [ofLookup_of_port chosen read]
          simp [bound, eq_comm]
      | error fault =>
          rw [ofLookup_of_fault chosen read]
          simp [bound]

/-- Nothing is found when the chosen text is no numeral of 16 bits, and the error is about it. -/
theorem ofLookup_fails_iff :
    (∃ fault, ofLookup lookup = .error ⟨raw, fault⟩) ↔
      Chooses lookup raw ∧ ∀ port < Nat.pow 2 16, ¬ Text.IsNumeral (Text.trim raw) port := by
  cases text : portText lookup with
  | none =>
      have free := portText_eq_none_iff.mp text
      rw [ofLookup_of_not_chooses free]
      simp [free]
  | some other =>
      have chosen := portText_eq_some_iff.mp text
      cases read : Text.readNumeral (Nat.pow 2 16) (Text.trim other) with
      | ok port =>
          obtain ⟨numeral, small⟩ := Text.readNumeral_eq_ok_iff.mp read
          rw [ofLookup_of_port chosen read]
          constructor
          · rintro ⟨_, same⟩
            cases same
          · rintro ⟨also, foreign⟩
            exact absurd (chosen.unique also ▸ numeral) (foreign port small)
      | error fault =>
          rw [ofLookup_of_fault chosen read]
          constructor
          · rintro ⟨_, same⟩
            cases same
            refine ⟨chosen, fun port small numeral => ?_⟩
            rw [Text.readNumeral_eq_ok_iff.mpr ⟨numeral, small⟩] at read
            cases read
          · rintro ⟨also, -⟩
            rw [chosen.unique also]
            exact ⟨fault, rfl⟩

/-! ## Blank variables -/

theorem hostOf_without (blank : ∀ name ∈ names, lookup.IsBlank name) :
    hostOf (lookup.without names) = hostOf lookup := by
  have same : Settings.nonBlank (lookup.without names) "SERVER_HOST" =
      Settings.nonBlank lookup "SERVER_HOST" := by
    ext raw
    rw [Lookup.nonBlank_eq_some_iff, Lookup.nonBlank_eq_some_iff, Lookup.holds_without_iff blank]
  rw [hostOf, hostOf, same]

/-- Whether a blank `SERVER_PORT` hides a `PORT`. -/
def Hides (lookup : Lookup) : Prop :=
  lookup.IsBlank "SERVER_PORT" ∧ ∃ raw, lookup.Holds "PORT" raw

theorem chooses_without_iff (blank : ∀ name ∈ names, lookup.IsBlank name)
    (visible : "SERVER_PORT" ∈ names → ¬ Hides lookup) :
    Chooses (lookup.without names) raw ↔ Chooses lookup raw := by
  unfold Chooses
  rw [Lookup.holds_without_iff blank, Lookup.holds_without_iff blank]
  by_cases removed : "SERVER_PORT" ∈ names
  · have blankPort := blank _ removed
    have unheld : ¬ lookup.Holds "PORT" raw := fun holds =>
      visible removed ⟨blankPort, raw, holds⟩
    simp [unheld, blankPort.not_holds]
  · rw [Lookup.without_of_not_mem removed]

/-- Removing blank variables makes no difference, unless a blank `SERVER_PORT` hides a `PORT`: then
the port is the default, whatever `PORT` holds.  The port is read from `SERVER_PORT` when that is set
and not blank, from `PORT` when `SERVER_PORT` is not set and `PORT` is not blank, and is 3001
otherwise.  Reading it fails exactly when the chosen text is no numeral of 16 bits. -/
theorem blank_unset_unless_hiding (lookup : Lookup) :
    (∀ names, (∀ name ∈ names, lookup.IsBlank name) →
      ("SERVER_PORT" ∈ names → ¬ Hides lookup) →
      ofLookup (lookup.without names) = ofLookup lookup) ∧
    (Hides lookup → ofLookup lookup = .ok ⟨hostOf lookup, 3001⟩) ∧
    (∀ listener, ofLookup lookup = .ok listener ↔ listener.host = hostOf lookup ∧
      ((∃ raw, Chooses lookup raw ∧ Text.IsNumeral (Text.trim raw) listener.port ∧
          listener.port < Nat.pow 2 16) ∨
        (∀ raw, ¬ Chooses lookup raw) ∧ listener.port = 3001)) ∧
    ∀ raw, (∃ fault, ofLookup lookup = .error ⟨raw, fault⟩) ↔
      Chooses lookup raw ∧ ∀ port < Nat.pow 2 16, ¬ Text.IsNumeral (Text.trim raw) port := by
  refine ⟨fun names blank visible => ?_, ?_, fun _ => ofLookup_eq_ok_iff, fun _ => ofLookup_fails_iff⟩
  · have same : portText (lookup.without names) = portText lookup := by
      ext raw
      rw [portText_eq_some_iff, portText_eq_some_iff, chooses_without_iff blank visible]
    have host := hostOf_without blank
    unfold hostOf at host
    unfold ofLookup
    rw [same, host]
  · rintro ⟨blank, -⟩
    refine ofLookup_of_not_chooses fun raw chosen => ?_
    rcases chosen with holds | ⟨unset, -⟩
    · exact blank.not_holds holds
    · obtain ⟨other, set, -⟩ := blank
      cases unset.symm.trans set

/-- A blank host is no host, and a blank `PORT` beside a `SERVER_PORT` does not count. -/
theorem blank_unset_unless_hiding_spaces :
    let lookup : Lookup := fun name =>
      if name = "SERVER_HOST" then some "\t" else
      if name = "SERVER_PORT" then some " 8080\n" else
      if name = "PORT" then some " " else none
    let names := ["PORT", "SERVER_HOST"]
    (∀ name ∈ names, lookup.IsBlank name) ∧ ("SERVER_PORT" ∈ names → ¬ Hides lookup) ∧
      ofLookup lookup = .ok ⟨"0.0.0.0", 8080⟩ ∧
      ofLookup (lookup.without names) = .ok ⟨"0.0.0.0", 8080⟩ := by
  intro lookup names
  have blank : ∀ name ∈ names, lookup.IsBlank name := by
    intro name listed
    simp only [names, List.mem_cons, List.not_mem_nil, or_false] at listed
    rcases listed with rfl | rfl
    · exact ⟨" ", rfl, by decide⟩
    · exact ⟨"\t", rfl, by decide⟩
  have visible : "SERVER_PORT" ∈ names → ¬ Hides lookup := fun listed => by simp [names] at listed
  have read : ofLookup lookup = .ok ⟨"0.0.0.0", 8080⟩ := rfl
  obtain ⟨same, -⟩ := blank_unset_unless_hiding lookup
  exact ⟨blank, visible, read, (same names blank visible).trans read⟩

/-- A blank `SERVER_PORT` is not like one that is not set: the `PORT` beside it is lost. -/
theorem blank_hides_port :
    let lookup : Lookup := fun name =>
      if name = "SERVER_PORT" then some " " else if name = "PORT" then some "9090" else none
    lookup.IsBlank "SERVER_PORT" ∧ ofLookup lookup = .ok ⟨"0.0.0.0", 3001⟩ ∧
      ofLookup (lookup.without ["SERVER_PORT"]) = .ok ⟨"0.0.0.0", 9090⟩ := by
  intro lookup
  exact ⟨⟨" ", rfl, by decide⟩, rfl, rfl⟩

end Listener
end KubeLens
