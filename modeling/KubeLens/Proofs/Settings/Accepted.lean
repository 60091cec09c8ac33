import KubeLens.Proofs.Text.Numeral
import KubeLens.Proofs.Text.Trimming
import KubeLens.Settings

/-!
# Accepted environments

The settings are read exactly when each of the four variables that hold numbers is unset, blank, or
a numeral in range.  Each setting then comes from its own variable alone.  Otherwise the error is
about the first variable that is not valid.
-/

namespace KubeLens

/-- A blank text is no numeral. -/
theorem Text.IsNumeral.solid {raw : String} {n : Nat} (numeral : IsNumeral (trim raw) n) :
    isBlankText raw = false := by
  obtain ⟨digits, same, some, -⟩ := numeral
  rw [isBlankText_eq_false_iff, ← trimChars_ne_nil_iff, ← toList_trim]
  rcases same with same | same <;> rw [same]
  · exact some
  · exact List.cons_ne_nil _ _

namespace Settings

/-! ## One variable -/

/-- Whether the value of a variable, if it is set, stands for a number that is at least `least`.  A
variable that is not set, or blank, stands for its default. -/
inductive Gives (default least : Nat) : Option String → Nat → Prop
  | unset : Gives default least none default
  | blank {raw : String} (blank : Text.isBlankText raw = true) :
    Gives default least (some raw) default
  | numeral {raw : String} {n : Nat} (numeral : Text.IsNumeral (Text.trim raw) n)
    (small : n < Nat.pow 2 64) (enough : least ≤ n) : Gives default least (some raw) n

/-- What is said about a variable whose value cannot be used. -/
inductive Complains (least : Nat) (name raw : String) : ServiceError → Prop
  | unreadable (solid : Text.isBlankText raw = false)
    (foreign : ∀ n < Nat.pow 2 64, ¬ Text.IsNumeral (Text.trim raw) n) :
    Complains least name raw (.config s!"{name} must be a number, got '{raw}'")
  | tooSmall {n : Nat} (numeral : Text.IsNumeral (Text.trim raw) n) (few : n < least) :
    Complains least name raw (.config s!"{name} must be at least 1")

section

variable {lookup : Lookup} {name raw : String} {default least n : Nat} {error : ServiceError}

theorem Gives.least_le {raw? : Option String} (gives : Gives default least raw? n)
    (ready : least ≤ default) : least ≤ n := by
  cases gives <;> assumption

/-- A variable either gives a number, or there is something to say about its value. -/
theorem gives_or_complains (default least : Nat) (name : String) (raw? : Option String) :
    (∃ n, Gives default least raw? n) ∨
      ∃ raw error, raw? = some raw ∧ Complains least name raw error := by
  cases raw? with
  | none => exact .inl ⟨default, .unset⟩
  | some raw =>
      by_cases readable : ∃ n < Nat.pow 2 64, Text.IsNumeral (Text.trim raw) n
      · obtain ⟨n, small, numeral⟩ := readable
        rcases Nat.lt_or_ge n least with few | enough
        · exact .inr ⟨raw, _, rfl, .tooSmall numeral few⟩
        · exact .inl ⟨n, .numeral numeral small enough⟩
      · cases solid : Text.isBlankText raw with
        | true => exact .inl ⟨default, .blank solid⟩
        | false =>
            exact .inr ⟨raw, _, rfl, .unreadable solid fun n small numeral =>
              readable ⟨n, small, numeral⟩⟩

theorem number_of_solid (set : lookup name = some raw) (solid : Text.isBlankText raw = false) :
    number lookup name default =
      (Text.readNumeral (Nat.pow 2 64) (Text.trim raw)).mapError fun _ =>
        .config s!"{name} must be a number, got '{raw}'" := by
  have value : nonBlank lookup name = some raw := by simp [nonBlank, set, solid]
  unfold number
  rw [value]
  dsimp only
  cases Text.readNumeral (Nat.pow 2 64) (Text.trim raw) <;> rfl

theorem number_of_gives (gives : Gives default least (lookup name) n) :
    number lookup name default = .ok n := by
  generalize set : lookup name = raw? at gives
  cases gives with
  | unset => simp [number, nonBlank, set]
  | blank blank =>
      have value : nonBlank lookup name = none := by simp [nonBlank, set, blank]
      unfold number
      rw [value]
  | numeral numeral small =>
      rw [number_of_solid set numeral.solid, Text.readNumeral_eq_ok_iff.mpr ⟨numeral, small⟩]
      rfl

theorem number_of_foreign (set : lookup name = some raw) (solid : Text.isBlankText raw = false)
    (foreign : ∀ n < Nat.pow 2 64, ¬ Text.IsNumeral (Text.trim raw) n) :
    number lookup name default = .error (.config s!"{name} must be a number, got '{raw}'") := by
  rw [number_of_solid set solid]
  cases read : Text.readNumeral (Nat.pow 2 64) (Text.trim raw) with
  | ok n =>
      obtain ⟨numeral, small⟩ := Text.readNumeral_eq_ok_iff.mp read
      exact absurd numeral (foreign n small)
  | error fault => rfl

theorem number_of_complains (set : lookup name = some raw) (complains : Complains 0 name raw error) :
    number lookup name default = .error error := by
  cases complains with
  | unreadable solid foreign => exact number_of_foreign set solid foreign
  | tooSmall _ few => exact absurd few (Nat.not_lt_zero _)

theorem positive_of_gives (ready : 0 < default) (gives : Gives default 1 (lookup name) n) :
    positive lookup name default = .ok n := by
  have some : 0 < n := gives.least_le ready
  rw [positive, number_of_gives gives]
  split
  case h_1 zero => cases zero; exact absurd some (Nat.lt_irrefl 0)
  case h_2 => rfl

theorem positive_of_complains (set : lookup name = some raw)
    (complains : Complains 1 name raw error) : positive lookup name default = .error error := by
  rw [positive]
  cases complains with
  | unreadable solid foreign => rw [number_of_foreign set solid foreign]
  | @tooSmall n numeral few =>
      obtain rfl : n = 0 := Nat.lt_one_iff.mp few
      have gives : Gives default 0 (lookup name) 0 :=
        set ▸ .numeral numeral (by decide) (Nat.zero_le _)
      rw [number_of_gives gives]
      rfl

end

/-! ## The four variables that hold numbers -/

/-- A setting that is a number, in the order in which they are read. -/
inductive Number
  | maxConcurrent
  | resync
  | cacheTtl
  | probeTimeout
  deriving DecidableEq

namespace Number

/-- The variable of a setting. -/
def name : Number → String
  | maxConcurrent => maxConcurrentVar
  | resync => resyncVar
  | cacheTtl => cacheTtlVar
  | probeTimeout => probeTimeoutVar

/-- The number that a variable stands for when it is not set. -/
def default : Number → Nat
  | maxConcurrent => 16
  | resync => 30
  | cacheTtl => 300
  | probeTimeout => 10

/-- The least number that a variable may hold. -/
def least : Number → Nat
  | maxConcurrent | resync => 1
  | cacheTtl | probeTimeout => 0

/-- The settings in the order in which they are read. -/
def order : List Number :=
  [maxConcurrent, resync, cacheTtl, probeTimeout]

/-- The number in the settings. -/
def value (settings : Settings) : Number → Nat
  | maxConcurrent => settings.maxConcurrent
  | resync => settings.resync
  | cacheTtl => settings.cacheTtl
  | probeTimeout => settings.probeTimeout

/-- What one stands for in a variable.  Variables hold seconds. -/
def unit : Number → Nat
  | maxConcurrent => 1
  | resync | cacheTtl | probeTimeout => 1000

/-- Whether a value of the variable, or its absence, can be used. -/
def IsValid (number : Number) (raw? : Option String) : Prop :=
  ∃ n, Gives number.default number.least raw? n

/-- Reads the variable of a setting. -/
def read (lookup : Lookup) : Number → Except ServiceError Nat
  | maxConcurrent => positive lookup maxConcurrentVar 16
  | resync => positive lookup resyncVar 30
  | cacheTtl => number lookup cacheTtlVar 300
  | probeTimeout => number lookup probeTimeoutVar 10

variable {lookup : Lookup} {number : Number} {raw : String} {n : Nat} {error : ServiceError}

theorem read_of_gives (gives : Gives number.default number.least (lookup number.name) n) :
    number.read lookup = .ok n := by
  cases number <;> dsimp only [name, default, least, read] at gives ⊢
  case maxConcurrent => exact positive_of_gives (by decide) gives
  case resync => exact positive_of_gives (by decide) gives
  case cacheTtl => exact number_of_gives gives
  case probeTimeout => exact number_of_gives gives

theorem read_of_complains (set : lookup number.name = some raw)
    (complains : Complains number.least number.name raw error) :
    number.read lookup = .error error := by
  cases number <;> dsimp only [name, least, read] at set complains ⊢
  case maxConcurrent => exact positive_of_complains set complains
  case resync => exact positive_of_complains set complains
  case cacheTtl => exact number_of_complains set complains
  case probeTimeout => exact number_of_complains set complains

theorem read_eq_ok_iff :
    number.read lookup = .ok n ↔ Gives number.default number.least (lookup number.name) n := by
  refine ⟨fun read => ?_, read_of_gives⟩
  rcases gives_or_complains number.default number.least number.name (lookup number.name) with
    ⟨m, gives⟩ | ⟨raw, error, set, complains⟩
  · rw [read_of_gives gives] at read
    cases read
    exact gives
  · rw [read_of_complains set complains] at read
    cases read

/-- What cannot be read is not valid, and the error is about it. -/
theorem read_eq_error (read : number.read lookup = .error error) :
    ∃ raw, lookup number.name = some raw ∧ ¬ number.IsValid (some raw) ∧
      Complains number.least number.name raw error := by
  rcases gives_or_complains number.default number.least number.name (lookup number.name) with
    ⟨n, gives⟩ | ⟨raw, other, set, complains⟩
  · rw [read_of_gives gives] at read
    cases read
  · have unread := read_of_complains set complains
    rw [unread] at read
    cases read
    refine ⟨raw, set, fun ⟨n, gives⟩ => ?_, complains⟩
    rw [read_of_gives (set ▸ gives)] at unread
    cases unread

end Number

/-! ## All settings -/

/-- The settings with these numbers. -/
def withNumbers (home? : Option String) (lookup : Lookup) (values : Number → Nat) : Settings where
  kubeconfigPath := (nonEmpty lookup "KUBECONFIG").getD (defaultKubeconfigPath home?)
  serviceAccountDir := (nonEmpty lookup "INSPECTOR_SERVICE_ACCOUNT_DIR").getD
    "/var/run/secrets/kubernetes.io/serviceaccount"
  cacheTtl := values .cacheTtl * 1000
  probeTimeout := values .probeTimeout * 1000
  resync := values .resync * 1000
  maxConcurrent := values .maxConcurrent

theorem value_withNumbers (home? : Option String) (lookup : Lookup) (values : Number → Nat)
    (number : Number) :
    number.value (withNumbers home? lookup values) = values number * number.unit := by
  cases number <;> simp [Number.value, Number.unit, withNumbers]

variable {home? : Option String} {lookup : Lookup} {settings : Settings} {error : ServiceError}

theorem ofLookup_eq_read (home? : Option String) (lookup : Lookup) :
    ofLookup home? lookup = do
      let maxConcurrent ← Number.maxConcurrent.read lookup
      let resync ← Number.resync.read lookup
      let cacheTtl ← Number.cacheTtl.read lookup
      let probeTimeout ← Number.probeTimeout.read lookup
      return withNumbers home? lookup fun
        | .maxConcurrent => maxConcurrent
        | .resync => resync
        | .cacheTtl => cacheTtl
        | .probeTimeout => probeTimeout := by
  have resync : (defaults home?).resync / 1000 = 30 := by simp [defaults]
  have cacheTtl : (defaults home?).cacheTtl / 1000 = 300 := by simp [defaults]
  have probeTimeout : (defaults home?).probeTimeout / 1000 = 10 := by simp [defaults]
  unfold ofLookup
  dsimp only
  rw [resync, cacheTtl, probeTimeout]
  rfl

/-- The settings are read when each number is.  Otherwise the first number that is not read tells
the error. -/
theorem ofLookup_cases (home? : Option String) (lookup : Lookup) :
    (∃ values : Number → Nat, (∀ number : Number, number.read lookup = .ok (values number)) ∧
      ofLookup home? lookup = .ok (withNumbers home? lookup values)) ∨
    ∃ (number : Number) (error : ServiceError), number.read lookup = .error error ∧ ofLookup home? lookup = .error error ∧
      ∀ earlier ∈ Number.order.takeWhile (· ≠ number), ∃ n, earlier.read lookup = .ok n := by
  rw [ofLookup_eq_read]
  cases maxConcurrent : Number.maxConcurrent.read lookup with
  | error error => exact .inr ⟨_, error, maxConcurrent, rfl, by simp [Number.order]⟩
  | ok a =>
      cases resync : Number.resync.read lookup with
      | error error => exact .inr ⟨_, error, resync, rfl, by simp [Number.order, maxConcurrent]⟩
      | ok b =>
          cases cacheTtl : Number.cacheTtl.read lookup with
          | error error =>
              exact .inr ⟨_, error, cacheTtl, rfl, by simp [Number.order, maxConcurrent, resync]⟩
          | ok c =>
              cases probeTimeout : Number.probeTimeout.read lookup with
              | error error =>
                  exact .inr ⟨_, error, probeTimeout, rfl,
                    by simp [Number.order, maxConcurrent, resync, cacheTtl]⟩
              | ok d =>
                  refine .inl ⟨_, fun number => ?_, rfl⟩
                  cases number <;> assumption

theorem of_ofLookup (read : ofLookup home? lookup = .ok settings) :
    ∃ values : Number → Nat, (∀ number : Number, number.read lookup = .ok (values number)) ∧
      settings = withNumbers home? lookup values := by
  rcases ofLookup_cases home? lookup with ⟨values, each, whole⟩ | ⟨number, error, -, whole, -⟩
  · rw [whole] at read
    cases read
    exact ⟨values, each, rfl⟩
  · rw [whole] at read
    cases read

/-- The settings are read exactly when the four variables that hold numbers are valid.  Each number
then is the one that its variable gives, and the numbers that must not be zero are not.  A setting
only depends on its own variable.  Otherwise the error names the first variable that is not valid,
and says what is wrong with it. -/
theorem ofLookup_accepts (home? : Option String) (lookup : Lookup) :
    ((∃ settings, ofLookup home? lookup = .ok settings) ↔
      ∀ number : Number, number.IsValid (lookup number.name)) ∧
    (∀ settings, ofLookup home? lookup = .ok settings →
      (∀ number : Number, ∃ n, Gives number.default number.least (lookup number.name) n ∧
        number.value settings = n * number.unit) ∧
      (1 ≤ settings.maxConcurrent ∧ settings.resync ≠ 0) ∧
      ∀ other otherSettings, ofLookup home? other = .ok otherSettings →
        (∀ number : Number, lookup number.name = other number.name →
          number.value settings = number.value otherSettings) ∧
        (lookup "KUBECONFIG" = other "KUBECONFIG" →
          settings.kubeconfigPath = otherSettings.kubeconfigPath) ∧
        (lookup "INSPECTOR_SERVICE_ACCOUNT_DIR" = other "INSPECTOR_SERVICE_ACCOUNT_DIR" →
          settings.serviceAccountDir = otherSettings.serviceAccountDir)) ∧
    ∀ error, ofLookup home? lookup = .error error →
      ∃ (number : Number) (raw : String),
        (lookup number.name = some raw ∧ ¬ number.IsValid (some raw)) ∧
        Complains number.least number.name raw error ∧
        ∀ earlier ∈ Number.order.takeWhile (· ≠ number), earlier.IsValid (lookup earlier.name) := by
  refine ⟨⟨?_, fun valid => ?_⟩, ?_, ?_⟩
  · rintro ⟨settings, read⟩ number
    obtain ⟨values, each, -⟩ := of_ofLookup read
    exact ⟨values number, Number.read_eq_ok_iff.mp (each number)⟩
  · rcases ofLookup_cases home? lookup with ⟨values, -, whole⟩ | ⟨number, error, unread, -⟩
    · exact ⟨_, whole⟩
    · obtain ⟨n, gives⟩ := valid number
      rw [Number.read_of_gives gives] at unread
      cases unread
  · intro settings read
    obtain ⟨values, each, rfl⟩ := of_ofLookup read
    have gives := fun number : Number => Number.read_eq_ok_iff.mp (each number)
    refine ⟨fun number => ⟨_, gives number, value_withNumbers ..⟩, ⟨?_, ?_⟩, ?_⟩
    · exact (gives .maxConcurrent).least_le (by decide)
    · have some : 1 ≤ values .resync := (gives .resync).least_le (by decide)
      have unit : (withNumbers home? lookup values).resync = values .resync * 1000 := rfl
      omega
    · intro other otherSettings alsoRead
      obtain ⟨otherValues, alsoEach, rfl⟩ := of_ofLookup alsoRead
      refine ⟨fun number same => ?_, fun same => ?_, fun same => ?_⟩
      · have given := Number.read_of_gives (same ▸ gives number)
        rw [alsoEach number] at given
        rw [value_withNumbers, value_withNumbers, Except.ok.inj given]
      · simp only [withNumbers, nonEmpty, same]
      · simp only [withNumbers, nonEmpty, same]
  · intro error unread
    rcases ofLookup_cases home? lookup with ⟨values, -, whole⟩ | ⟨number, other, fails, whole, before⟩
    · rw [whole] at unread
      cases unread
    · rw [whole] at unread
      cases unread
      obtain ⟨raw, set, invalid, complains⟩ := Number.read_eq_error fails
      refine ⟨number, raw, ⟨set, invalid⟩, complains, fun earlier first => ?_⟩
      obtain ⟨n, read⟩ := before earlier first
      exact ⟨n, Number.read_eq_ok_iff.mp read⟩

/-- An environment with a signed number between blanks and a blank variable, and one that asks for
reads without a pause. -/
theorem ofLookup_accepts_tuned :
    let tuned : Lookup := fun name =>
      if name = maxConcurrentVar then some " +04\n" else if name = cacheTtlVar then some "\t" else none
    let restless : Lookup := fun name => if name = resyncVar then some "00" else none
    let settings : Settings := { defaults "" with maxConcurrent := 4 }
    let error : ServiceError := .config "INSPECTOR_WATCH_RESYNC_SECS must be at least 1"
    (ofLookup "" tuned = .ok settings ∧ ∀ number : Number, number.IsValid (tuned number.name)) ∧
      (1 ≤ settings.maxConcurrent ∧ settings.resync ≠ 0) ∧
      ofLookup "" restless = .error error ∧
      ∃ (number : Number) (raw : String), restless number.name = some raw ∧
        Complains number.least number.name raw error := by
  intro tuned restless settings error
  have read : ofLookup "" tuned = .ok settings := by decide +kernel
  have unread : ofLookup "" restless = .error error := by decide +kernel
  obtain ⟨accepted, settled, -⟩ := ofLookup_accepts "" tuned
  obtain ⟨-, positive, -⟩ := settled settings read
  obtain ⟨-, -, refused⟩ := ofLookup_accepts "" restless
  obtain ⟨number, raw, ⟨set, -⟩, complains, -⟩ := refused error unread
  exact ⟨⟨read, accepted.mp ⟨settings, read⟩⟩, positive, unread, number, raw, set, complains⟩

end Settings
end KubeLens
