import KubeLens.Proofs.Json.Reading

/-!
# Only JSON texts are read

What is read from the front of a text is spelled there.  With `readWithin_of_isText` this says that
the reader accepts exactly the texts of the grammar, within its limits on numbers and nesting.  The
proof is by induction on the fuel, for the three readers of values at once.
-/

namespace KubeLens
namespace Json

open Text

/-! ## Steps that succeed -/

section Steps

variable {ε α β : Type}

theorem of_map_eq_ok {f : α → β} {reading : Except ε α} {result : β}
    (read : reading.map f = .ok result) : ∃ found, reading = .ok found ∧ f found = result := by
  cases reading with
  | error => cases read
  | ok found => exact ⟨found, rfl, Except.ok.inj read⟩

theorem of_bind_eq_ok {next : α → Except ε β} {reading : Except ε α} {result : β}
    (read : reading >>= next = .ok result) :
    ∃ found, reading = .ok found ∧ next found = .ok result := by
  cases reading with
  | error => cases read
  | ok found => exact ⟨found, rfl, read⟩

end Steps

variable {cs chars text rest digits fraction exponent : List Char} {value : Json}
  {negative : Bool} {places? : Option (List Char)} {power? : Option Int}

/-! ## Strings -/

/-- Whether a text goes on with these characters of a string, its closing quote and the rest. -/
def Closes (cs chars rest : List Char) : Prop :=
  ∃ parts : List (List Char), List.Forall₂ SpellsChar parts chars ∧
    cs = parts.flatten ++ '"' :: rest

theorem Closes.cons {part : List Char} {c : Char} (first : SpellsChar part c)
    (closes : Closes cs chars rest) : Closes (part ++ cs) (c :: chars) rest := by
  obtain ⟨parts, spelled, rfl⟩ := closes
  exact ⟨part :: parts, .cons first spelled, by simp⟩

theorem Closes.of_prepend {part : List Char} {c : Char} (first : SpellsChar part c)
    (closes : ∀ {chars}, readString cs = .ok (chars, rest) → Closes cs chars rest)
    (read : (readString cs).map (prepend c) = .ok (chars, rest)) :
    Closes (part ++ cs) chars rest := by
  obtain ⟨⟨others, last⟩, found, same⟩ := of_map_eq_ok read
  cases same
  exact .cons first (closes found)

theorem closes_of_readString (read : readString cs = .ok (chars, rest)) :
    Closes cs chars rest := by
  fun_induction readString cs generalizing chars
  case case2 =>
    cases read
    exact ⟨[], .nil, rfl⟩
  case case5 first isHigh _ second isLow ih =>
    exact .of_prepend (.pair first isHigh second isLow) ih read
  case case8 digits notHigh notLow ih =>
    exact .of_prepend
      (.code digits (Bool.eq_false_iff.mpr notHigh) (Bool.eq_false_iff.mpr notLow)) ih read
  case case12 digits notHigh notLow ih =>
    exact .of_prepend
      (.code digits (Bool.eq_false_iff.mpr notHigh) (Bool.eq_false_iff.mpr notLow)) ih read
  case case15 stands ih => exact .of_prepend (.letter stands) ih read
  case case18 c others notQuote _ _ _ notEscape notLast printable ih =>
    have notBackslash : c ≠ '\\' := by
      rintro rfl
      cases others with
      | nil => exact notLast rfl rfl
      | cons letter others => exact notEscape letter others rfl rfl
    exact .of_prepend (.plain (Nat.not_lt.mp printable) notQuote notBackslash) ih read
  -- The other branches of the reader are faults.
  all_goals cases read

/-! ## Numbers -/

theorem of_readDigitRun (read : readDigitRun cs = .ok (digits, rest)) :
    IsDigitRun digits ∧ cs = digits ++ rest := by
  unfold readDigitRun at read
  split at read
  case h_1 => cases read
  case h_2 some =>
    cases read
    exact ⟨⟨some, fun c => List.mem_takeWhile_imp⟩, List.takeWhile_append_dropWhile.symm⟩

theorem of_readFraction (read : readFraction cs = .ok (places?, rest)) :
    ∃ fraction, SpellsFraction fraction places? ∧ cs = fraction ++ rest := by
  unfold readFraction at read
  split at read
  case h_1 =>
    obtain ⟨⟨digits, last⟩, found, same⟩ := of_map_eq_ok read
    cases same
    obtain ⟨run, rfl⟩ := of_readDigitRun found
    exact ⟨_, .places run, rfl⟩
  case h_2 =>
    cases read
    exact ⟨[], .absent, rfl⟩

theorem of_readPower (read : readPower negative cs = .ok (power?, rest)) :
    ∃ digits, IsDigitRun digits ∧ cs = digits ++ rest ∧
      power? = some (signed negative (Nat.ofDigitChars 10 digits 0)) := by
  obtain ⟨⟨digits, last⟩, found, same⟩ := of_map_eq_ok read
  cases same
  obtain ⟨run, rfl⟩ := of_readDigitRun found
  exact ⟨digits, run, rfl, by rw [← digitsValue_eq]; rfl⟩

theorem of_readExponent (read : readExponent cs = .ok (power?, rest)) :
    ∃ exponent, SpellsExponent exponent power? ∧ cs = exponent ++ rest := by
  unfold readExponent at read
  split at read
  case h_1 mark others =>
    split at read
    case isTrue marked =>
      have marks : mark = 'e' ∨ mark = 'E' := by simpa using marked
      split at read
      case h_1 =>
        obtain ⟨digits, run, rfl, rfl⟩ := of_readPower read
        exact ⟨_, .power marks (.inr ⟨rfl, rfl⟩) run, rfl⟩
      case h_2 =>
        obtain ⟨digits, run, rfl, rfl⟩ := of_readPower read
        exact ⟨_, .power marks (.inl (rfl : ['-'] = minus true)) run, rfl⟩
      case h_3 =>
        obtain ⟨digits, run, rfl, rfl⟩ := of_readPower read
        exact ⟨_, .power marks (.inl (rfl : [] = minus false)) run, rfl⟩
    case isFalse =>
      cases read
      exact ⟨[], .absent, rfl⟩
  case h_2 =>
    cases read
    exact ⟨[], .absent, rfl⟩

theorem of_double? {size : Nat} {exponent : Int}
    (read : double? negative size exponent = .ok value) :
    ∃ bits, Double.ofDecimal negative size exponent = bits ∧ Double.isFinite bits = true ∧
      value = .double bits := by
  unfold double? at read
  dsimp only at read
  split at read
  case isTrue finite =>
    cases read
    exact ⟨_, rfl, finite, rfl⟩
  case isFalse => cases read

/-- A number that is read is cut into its parts. -/
theorem of_readUnsigned (read : readUnsigned negative cs = .ok (value, rest)) :
    ∃ digits fraction exponent places? power?, IsWhole digits ∧ SpellsFraction fraction places? ∧
      SpellsExponent exponent power? ∧ numeral? negative digits places? power? = .ok value ∧
      cs = digits ++ (fraction ++ (exponent ++ rest)) := by
  obtain ⟨⟨digits, afterDigits⟩, readDigits, read⟩ := of_bind_eq_ok read
  obtain ⟨run, cutDigits⟩ := of_readDigitRun readDigits
  dsimp only at read
  split at read
  case h_1 => cases read
  case h_2 canonical =>
    obtain ⟨⟨places?, afterPlaces⟩, readPlaces, read⟩ := of_bind_eq_ok read
    obtain ⟨fraction, fractional, cutPlaces⟩ := of_readFraction readPlaces
    obtain ⟨⟨power?, afterPower⟩, readPower, read⟩ := of_bind_eq_ok read
    obtain ⟨exponent, exponential, cutPower⟩ := of_readExponent readPower
    dsimp only at cutPlaces cutPower
    have whole : IsWhole digits := ⟨run, fun others zero => by
      cases others with
      | nil => rfl
      | cons second others => exact (canonical second others zero).elim⟩
    have denotes : (numeral? negative digits places? power?).map (·, afterPower) =
        .ok (value, rest) := by
      cases places? <;> cases power? <;> exact read
    obtain ⟨_, number, same⟩ := of_map_eq_ok denotes
    cases same
    exact ⟨digits, fraction, exponent, places?, power?, whole, fractional, exponential, number,
      by rw [cutDigits, cutPlaces, cutPower]⟩

theorem of_numeral? (whole : IsWhole digits) (fractional : SpellsFraction fraction places?)
    (exponential : SpellsExponent exponent power?)
    (number : numeral? negative digits places? power? = .ok value) :
    SpellsNumber (minus negative ++ (digits ++ (fraction ++ exponent))) value := by
  by_cases integer : places? = none ∧ power? = none ∧
    IsInteger negative (Nat.ofDigitChars 10 digits 0)
  case pos =>
    obtain ⟨rfl, rfl, small⟩ := integer
    rw [numeral?, digitsValue_eq, whole?_of_isInteger small] at number
    cases number
    cases fractional
    cases exponential
    rw [List.append_nil, List.append_nil]
    exact .integer whole small
  case neg =>
    have notInteger : places? = none → power? = none →
        ¬ IsInteger negative (Nat.ofDigitChars 10 digits 0) :=
      fun noPlaces noPower small => integer ⟨noPlaces, noPower, small⟩
    rw [numeral?_of_not_isInteger notInteger] at number
    obtain ⟨bits, nearest, finite, rfl⟩ := of_double? number
    exact .double whole fractional exponential notInteger nearest finite

theorem of_readNumber (read : readNumber cs = .ok (value, rest)) :
    ∃ text, SpellsNumber text value ∧ cs = text ++ rest := by
  have parts : ∀ {negative cs}, readUnsigned negative cs = .ok (value, rest) →
      ∃ text, SpellsNumber text value ∧ minus negative ++ cs = text ++ rest := by
    intro negative cs read
    obtain ⟨digits, fraction, exponent, places?, power?, whole, fractional, exponential, number,
      rfl⟩ := of_readUnsigned read
    exact ⟨_, of_numeral? whole fractional exponential number, by simp only [List.append_assoc]⟩
  unfold readNumber at read
  split at read
  case h_1 => exact parts read
  case h_2 => exact parts read

/-! ## Values -/

theorem of_readWord {word : List Char} {meaning : Json}
    (read : readWord word meaning cs = .ok (value, rest)) :
    value = meaning ∧ cs = word ++ rest := by
  unfold readWord at read
  split at read
  case isTrue starts =>
    obtain ⟨others, rfl⟩ := List.isPrefixOf_iff_prefix.mp starts
    cases read
    exact ⟨rfl, by rw [List.drop_left]⟩
  case isFalse =>
    split at read <;> cases read

theorem exists_blanks (cs : List Char) :
    ∃ blanks, (∀ c ∈ blanks, isSpace c = true) ∧ cs = blanks ++ skipSpace cs :=
  ⟨cs.takeWhile isSpace, fun _ => List.mem_takeWhile_imp, List.takeWhile_append_dropWhile.symm⟩

section Parts

variable {α : Type} {spells : List Char → α → Prop} {blanks : List Char} {parts : List α}

theorem Padded.blanks_append {part : α} (blank : ∀ c ∈ blanks, isSpace c = true)
    (padded : Padded spells text part) : Padded spells (blanks ++ text) part := by
  cases padded with
  | blanks front core back =>
      rw [← List.append_assoc]
      exact .blanks (List.forall_mem_append.mpr ⟨blank, front⟩) core back

theorem Padded.append_blanks {part : α} (padded : Padded spells text part)
    (blank : ∀ c ∈ blanks, isSpace c = true) : Padded spells (text ++ blanks) part := by
  cases padded with
  | blanks front core back =>
      rw [List.append_assoc, List.append_assoc]
      exact .blanks front core (List.forall_mem_append.mpr ⟨back, blank⟩)

theorem SpellsMember.append_blanks {spells : List Char → Json → Prop} {member : String × Json}
    (spelled : SpellsMember spells text member) (blank : ∀ c ∈ blanks, isSpace c = true) :
    SpellsMember spells (text ++ blanks) member := by
  cases spelled with
  | colon name content =>
      rw [List.append_assoc, List.cons_append]
      exact .colon name (content.append_blanks blank)

theorem SpellsMember.blanks_append {spells : List Char → Json → Prop} {member : String × Json}
    (blank : ∀ c ∈ blanks, isSpace c = true) (spelled : SpellsMember spells text member) :
    SpellsMember spells (blanks ++ text) member := by
  cases spelled with
  | colon name content =>
      rw [← List.append_assoc]
      exact .colon (name.blanks_append blank) content

/-- Blanks in front of parts belong to the first one. -/
theorem Separated.blanks_append
    (first : ∀ {text part}, spells text part → spells (blanks ++ text) part)
    (parted : Separated spells text parts) : Separated spells (blanks ++ text) parts := by
  cases parted with
  | last spelled => exact .last (first spelled)
  | more spelled others =>
      rw [← List.append_assoc]
      exact .more (first spelled) others

end Parts

/-- What the three readers of values make of texts, with so much fuel. -/
structure Sound (fuel : Nat) : Prop where
  value : ∀ {depth cs value rest}, readValue fuel depth cs = .ok (value, rest) →
    ∃ text, Padded (Spells depth) text value ∧ cs = text ++ rest
  items : ∀ {depth cs items rest}, readItems fuel depth cs = .ok (items, rest) →
    ∃ text, Separated (Padded (Spells depth)) text items ∧ cs = text ++ ']' :: rest
  members : ∀ {depth cs members rest}, readMembers fuel depth cs = .ok (members, rest) →
    ∃ text, Separated (SpellsMember (Spells depth)) text members ∧ cs = text ++ '}' :: rest

theorem Sound.of_array {fuel depth : Nat} (sound : Sound fuel)
    (read : (match skipSpace cs with
      | ']' :: rest => .ok (.arr [], rest)
      | rest => (readItems fuel depth rest).map fun read => (.arr read.1, read.2)) =
        (.ok (value, rest) : Reading Json)) :
    ∃ inner items, Listed (Padded (Spells depth)) inner items ∧ value = .arr items ∧
      cs = inner ++ ']' :: rest := by
  obtain ⟨blanks, blank, whole⟩ := exists_blanks cs
  split at read
  case h_1 closing =>
    cases read
    exact ⟨blanks, [], .empty blank, rfl, by rw [whole, closing]⟩
  case h_2 =>
    obtain ⟨⟨items, last⟩, found, same⟩ := of_map_eq_ok read
    cases same
    obtain ⟨text, parted, cut⟩ := sound.items found
    exact ⟨blanks ++ text, items, .parts (parted.blanks_append (Padded.blanks_append blank)), rfl,
      by rw [whole, cut, List.append_assoc]⟩

theorem Sound.of_object {fuel depth : Nat} (sound : Sound fuel)
    (read : (match skipSpace cs with
      | '}' :: rest => .ok (.obj [], rest)
      | rest => (readMembers fuel depth rest).map fun read => (.obj read.1, read.2)) =
        (.ok (value, rest) : Reading Json)) :
    ∃ inner members, Listed (SpellsMember (Spells depth)) inner members ∧ value = .obj members ∧
      cs = inner ++ '}' :: rest := by
  obtain ⟨blanks, blank, whole⟩ := exists_blanks cs
  split at read
  case h_1 closing =>
    cases read
    exact ⟨blanks, [], .empty blank, rfl, by rw [whole, closing]⟩
  case h_2 =>
    obtain ⟨⟨members, last⟩, found, same⟩ := of_map_eq_ok read
    cases same
    obtain ⟨text, parted, cut⟩ := sound.members found
    exact ⟨blanks ++ text, members,
      .parts (parted.blanks_append (SpellsMember.blanks_append blank)), rfl,
      by rw [whole, cut, List.append_assoc]⟩

theorem Sound.value_succ {fuel depth : Nat} (sound : Sound fuel)
    (read : readValue (fuel + 1) depth cs = .ok (value, rest)) :
    ∃ text, Padded (Spells depth) text value ∧ cs = text ++ rest := by
  obtain ⟨blanks, blank, whole⟩ := exists_blanks cs
  suffices ∃ text, Spells depth text value ∧ skipSpace cs = text ++ rest by
    obtain ⟨text, spelled, same⟩ := this
    exact ⟨_, .blanks_append blank (.bare spelled), by rw [whole, same, List.append_assoc]⟩
  unfold readValue at read
  split at read
  case h_1 => cases read
  case h_2 others string =>
    obtain ⟨⟨chars, last⟩, found, same⟩ := of_map_eq_ok read
    cases same
    obtain ⟨parts, spelled, cut⟩ := closes_of_readString found
    rw [← String.toList_ofList (l := chars)] at spelled
    exact ⟨_, spells_of_scalar (.str ⟨parts, spelled, rfl⟩), by simp [string, cut]⟩
  case h_3 others array =>
    cases depth with
    | zero => cases read
    | succ depth =>
        obtain ⟨inner, items, listed, rfl, cut⟩ := sound.of_array read
        exact ⟨_, .inr (.inl ⟨inner, items, listed, rfl, rfl⟩), by simp [array, cut]⟩
  case h_4 others object =>
    cases depth with
    | zero => cases read
    | succ depth =>
        obtain ⟨inner, members, listed, rfl, cut⟩ := sound.of_object read
        exact ⟨_, .inr (.inr ⟨inner, members, listed, rfl, rfl⟩), by simp [object, cut]⟩
  case h_5 others word =>
    obtain ⟨rfl, rfl⟩ := of_readWord read
    exact ⟨_, spells_of_scalar .null, word⟩
  case h_6 others word =>
    obtain ⟨rfl, rfl⟩ := of_readWord read
    exact ⟨_, spells_of_scalar .yes, word⟩
  case h_7 others word =>
    obtain ⟨rfl, rfl⟩ := of_readWord read
    exact ⟨_, spells_of_scalar .no, word⟩
  case h_8 =>
    obtain ⟨text, number, cut⟩ := of_readNumber read
    exact ⟨text, spells_of_scalar (.number number), cut⟩

theorem Sound.items_succ {fuel depth : Nat} {items : List Json} (sound : Sound fuel)
    (read : readItems (fuel + 1) depth cs = .ok (items, rest)) :
    ∃ text, Separated (Padded (Spells depth)) text items ∧ cs = text ++ ']' :: rest := by
  unfold readItems at read
  split at read
  case h_1 => cases read
  case h_2 item left found =>
    obtain ⟨text, spelled, rfl⟩ := sound.value found
    obtain ⟨blanks, blank, whole⟩ := exists_blanks left
    split at read
    case h_1 others comma =>
      obtain ⟨⟨items, last⟩, found, same⟩ := of_map_eq_ok read
      cases same
      obtain ⟨more, parted, cut⟩ := sound.items found
      exact ⟨_, .more (spelled.append_blanks blank) parted, by rw [whole, comma, cut]; simp⟩
    case h_2 others bracket =>
      cases read
      exact ⟨_, .last (spelled.append_blanks blank), by rw [whole, bracket]; simp⟩
    case h_3 => cases read

/-- The first member is spelled in front of what the reader goes on with. -/
theorem Sound.member {fuel depth : Nat} {members : List (String × Json)} (sound : Sound fuel)
    (read : readMembers (fuel + 1) depth cs = .ok (members, rest)) :
    ∃ member text left, SpellsMember (Spells depth) text member ∧ cs = text ++ left ∧
      readOthers fuel depth member left = .ok (members, rest) := by
  obtain ⟨before, front, cutBefore⟩ := exists_blanks cs
  unfold readMembers at read
  split at read
  case h_2 => cases read
  case h_1 string quote =>
    split at read
    case h_1 => cases read
    case h_2 key afterKey closed =>
      obtain ⟨parts, spelled, cutKey⟩ := closes_of_readString closed
      rw [← String.toList_ofList (l := key)] at spelled
      obtain ⟨gap, blank, cutGap⟩ := exists_blanks afterKey
      split at read
      case h_2 => cases read
      case h_1 afterColon colon =>
        split at read
        case h_1 => cases read
        case h_2 value left found =>
          obtain ⟨text, content, cutValue⟩ := sound.value found
          have name : Padded SpellsString (before ++ ('"' :: (parts.flatten ++ ['"']) ++ gap))
              (String.ofList key) := .blanks front ⟨parts, spelled, rfl⟩ blank
          refine ⟨_, _, left, .colon name content, ?_, read⟩
          rw [cutBefore, quote, cutKey, cutGap, colon, cutValue]
          simp

theorem Sound.members_succ {fuel depth : Nat} {members : List (String × Json)} (sound : Sound fuel)
    (read : readMembers (fuel + 1) depth cs = .ok (members, rest)) :
    ∃ text, Separated (SpellsMember (Spells depth)) text members ∧ cs = text ++ '}' :: rest := by
  obtain ⟨member, text, left, spelled, rfl, goesOn⟩ := sound.member read
  obtain ⟨blanks, blank, whole⟩ := exists_blanks left
  unfold readOthers at goesOn
  split at goesOn
  case h_1 others comma =>
    obtain ⟨⟨members, last⟩, found, same⟩ := of_map_eq_ok goesOn
    cases same
    obtain ⟨more, parted, cut⟩ := sound.members found
    exact ⟨_, .more (spelled.append_blanks blank) parted, by rw [whole, comma, cut]; simp⟩
  case h_2 others brace =>
    cases goesOn
    exact ⟨_, .last (spelled.append_blanks blank), by rw [whole, brace]; simp⟩
  case h_3 => cases goesOn

theorem sound_readers (fuel : Nat) : Sound fuel := by
  induction fuel with
  | zero => exact ⟨nofun, nofun, nofun⟩
  | succ fuel ih => exact ⟨ih.value_succ, ih.items_succ, ih.members_succ⟩

/-- Exactly the texts of a value are read as that value. -/
theorem readWithin_eq_ok_iff {limit : Nat} {text : String} :
    readWithin limit text = .ok value ↔ IsText limit text value := by
  refine ⟨fun read => ?_, readWithin_of_isText⟩
  unfold readWithin at read
  dsimp only at read
  split at read
  case h_1 value left found =>
    split at read
    case isTrue none =>
      cases read
      obtain ⟨core, spelled, cut⟩ := (sound_readers _).value found
      obtain ⟨blanks, blank, whole⟩ := exists_blanks left
      rw [List.isEmpty_iff.mp none, List.append_nil] at whole
      rw [IsText, cut, whole]
      exact spelled.append_blanks blank
    case isFalse => cases read
  case h_2 => cases read

theorem read?_eq_some_iff {text : String} :
    read? text = some value ↔ IsText nestingLimit text value := by
  rw [← readWithin_eq_ok_iff, read?, read]
  constructor
  · intro found
    cases result : readWithin nestingLimit text with
    | error fault =>
        rw [result] at found
        cases found
    | ok other =>
        rw [result] at found
        cases found
        rfl
  · intro found
    rw [found]
    rfl

end Json
end KubeLens
