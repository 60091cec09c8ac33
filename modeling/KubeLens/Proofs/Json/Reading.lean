import KubeLens.Proofs.Json.Lexemes

/-!
# Every JSON text is read

A text of a value is read as that value, so it is the text of no other one.  The proof is by
induction on how deep the value nests.  Inside a container it is by induction on the parts, for
whatever the values inside are spelled by, as long as those are read.
-/

namespace KubeLens
namespace Json

open Text

variable {fuel depth : Nat} {text rest cs blanks : List Char} {value : Json}

/-! ## Blanks -/

theorem skipSpace_skipSpace (cs : List Char) : skipSpace (skipSpace cs) = skipSpace cs :=
  dropWhile_of_stops (stops_dropWhile isSpace cs)

theorem skipSpace_append (blank : ∀ c ∈ blanks, isSpace c = true) (cs : List Char) :
    skipSpace (blanks ++ cs) = skipSpace cs :=
  List.dropWhile_append_of_pos blank

theorem skipSpace_cons {c : Char} (solid : isSpace c = false) (cs : List Char) :
    skipSpace (c :: cs) = c :: cs :=
  dropWhile_of_stops (stops_cons.mpr solid)

theorem isSpace_of_isNumeric {c : Char} (numeric : isNumeric c = true) : isSpace c = false := by
  rw [Bool.eq_false_iff]
  intro space
  simp only [isSpace, Bool.or_eq_true, beq_iff_eq] at space
  rcases space with ((rfl | rfl) | rfl) | rfl <;> cases numeric

/-- A number does not go on with a blank. -/
theorem stops_blanks (blank : ∀ c ∈ blanks, isSpace c = true) (stops : Stops isNumeric rest) :
    Stops isNumeric (blanks ++ rest) := by
  cases blanks with
  | nil => exact stops
  | cons c others =>
      refine stops_cons.mpr (Bool.eq_false_iff.mpr fun numeric => ?_)
      cases (blank c List.mem_cons_self).symm.trans (isSpace_of_isNumeric numeric)

/-- Blanks in front of a value do not count. -/
theorem readValue_congr {others : List Char} (same : skipSpace cs = skipSpace others) :
    readValue fuel depth cs = readValue fuel depth others := by
  cases fuel with
  | zero => rfl
  | succ fuel => rw [readValue.eq_def, readValue.eq_def, same]

theorem readItems_congr {others : List Char} (same : skipSpace cs = skipSpace others) :
    readItems fuel depth cs = readItems fuel depth others := by
  cases fuel with
  | zero => rfl
  | succ fuel => rw [readItems, readItems, readValue_congr same]

theorem readMembers_congr {others : List Char} (same : skipSpace cs = skipSpace others) :
    readMembers fuel depth cs = readMembers fuel depth others := by
  cases fuel with
  | zero => rfl
  | succ fuel => rw [readMembers, readMembers, same]

/-! ## Scalars -/

theorem readValue_number {c : Char} (starts : isDigit c = true ∨ c = '-') :
    readValue (fuel + 1) depth (c :: cs) = readNumber (c :: cs) := by
  have solid : isSpace c = false := by
    rcases starts with digit | rfl
    · exact isSpace_of_isNumeric (isNumeric_of_isPlace (isPlace_of_isDigit digit))
    · rfl
  unfold readValue
  rw [skipSpace_cons solid]
  split
  case h_1 none => cases none
  case h_8 => rfl
  all_goals
    rename_i first
    cases first
    exact absurd starts (by decide)

theorem IsWhole.exists_cons {digits : List Char} (whole : IsWhole digits) (negative : Bool)
    (others : List Char) : ∃ c rest, minus negative ++ (digits ++ others) = c :: rest ∧
      (isDigit c = true ∨ c = '-') := by
  cases negative with
  | true => exact ⟨'-', _, rfl, .inr rfl⟩
  | false =>
      obtain ⟨c, rest, rfl⟩ := List.exists_cons_of_ne_nil whole.some
      exact ⟨c, rest ++ others, rfl, .inl (whole.all c List.mem_cons_self)⟩

theorem SpellsNumber.exists_cons (spelled : SpellsNumber text value) :
    ∃ c rest, text = c :: rest ∧ (isDigit c = true ∨ c = '-') := by
  cases spelled with
  | @integer negative _ whole =>
      have front := whole.exists_cons negative []
      rwa [List.append_nil] at front
  | double whole => exact whole.exists_cons _ _

theorem readValue_scalar (spelled : SpellsScalar text value) (stops : Stops isNumeric rest) :
    readValue (fuel + 1) depth (text ++ rest) = .ok (value, rest) := by
  cases spelled with
  | null => simp [readValue, skipSpace, isSpace, readWord]
  | yes => simp [readValue, skipSpace, isSpace, readWord]
  | no => simp [readValue, skipSpace, isSpace, readWord]
  | str string =>
      obtain ⟨parts, spelled, rfl⟩ := string
      rw [List.cons_append, List.append_assoc, readValue, skipSpace_cons (by decide)]
      simp only [List.singleton_append, readString_parts spelled, Except.map, String.ofList_toList]
  | number number =>
      obtain ⟨c, others, rfl, starts⟩ := number.exists_cons
      exact (readValue_number starts).trans (readNumber_append number stops)

theorem SpellsScalar.ne_nil (spelled : SpellsScalar text value) : text ≠ [] := by
  cases spelled with
  | number number =>
      obtain ⟨c, others, rfl, -⟩ := number.exists_cons
      exact List.cons_ne_nil c others
  | str string =>
      obtain ⟨parts, -, rfl⟩ := string
      exact List.cons_ne_nil _ _
  | _ => exact List.cons_ne_nil _ _

/-! ## Containers -/

/-- Whether every text that spells a value is read as that value, up to where a number could not go
on.  Two steps for each character suffice: one for a value and one for the list that it is part
of. -/
def Reads (depth : Nat) (spells : List Char → Json → Prop) : Prop :=
  ∀ {text rest : List Char} {value : Json} {fuel : Nat}, spells text value →
    Stops isNumeric rest → 2 * text.length ≤ fuel →
      readValue fuel depth (text ++ rest) = .ok (value, rest)

variable {spells : List Char → Json → Prop} {inner : List Char} {items : List Json}
  {members : List (String × Json)}

theorem readValue_padded (reads : Reads depth spells) (padded : Padded spells text value)
    (stops : Stops isNumeric rest) (enough : 2 * text.length ≤ fuel) :
    ∃ left, readValue fuel depth (text ++ rest) = .ok (value, left) ∧
      skipSpace left = skipSpace rest := by
  cases padded with
  | @blanks before core after _ front spelled back =>
      refine ⟨after ++ rest, ?_, skipSpace_append back rest⟩
      have short : 2 * core.length ≤ fuel := by
        simp only [List.length_append] at enough
        omega
      rw [List.append_assoc, List.append_assoc, readValue_congr (skipSpace_append front _)]
      exact reads spelled (stops_blanks back stops) short

theorem readItems_separated (reads : Reads depth spells)
    (parted : Separated (Padded spells) text items) (rest : List Char)
    (enough : 2 * text.length + 1 ≤ fuel) :
    readItems fuel depth (text ++ ']' :: rest) = .ok (items, rest) := by
  induction parted generalizing fuel with
  | last spelled =>
      obtain ⟨fuel, rfl⟩ := Nat.exists_eq_add_of_le' (Nat.le_of_add_left_le enough)
      have stops : Stops isNumeric (']' :: rest) := stops_cons.mpr (by decide)
      obtain ⟨left, read, same⟩ :=
        readValue_padded reads spelled stops (Nat.le_of_succ_le_succ enough)
      rw [readItems, read]
      simp only [same, skipSpace_cons (by decide : isSpace ']' = false)]
  | @more text others item items spelled _ ih =>
      obtain ⟨fuel, rfl⟩ := Nat.exists_eq_add_of_le' (Nat.le_of_add_left_le enough)
      simp only [List.length_append, List.length_cons] at enough
      have stops : Stops isNumeric (',' :: (others ++ ']' :: rest)) := stops_cons.mpr (by decide)
      obtain ⟨left, read, same⟩ :=
        readValue_padded reads spelled stops (show 2 * text.length ≤ fuel by omega)
      rw [List.append_assoc, List.cons_append, readItems, read]
      simp only [same, skipSpace_cons (by decide : isSpace ',' = false)]
      rw [ih (by omega)]
      rfl

/-- Goes on after a member: with a comma and the other members, or to the closing brace. -/
def readOthers (fuel depth : Nat) (member : String × Json) (cs : List Char) :
    Reading (List (String × Json)) :=
  match skipSpace cs with
  | ',' :: rest => (readMembers fuel depth rest).map fun read => (member :: read.1, read.2)
  | '}' :: rest => .ok ([member], rest)
  | rest => .error (.before rest)

theorem readOthers_comma (fuel depth : Nat) (member : String × Json) (rest : List Char) :
    readOthers fuel depth member (',' :: rest) =
      (readMembers fuel depth rest).map fun read => (member :: read.1, read.2) := rfl

theorem readOthers_brace (fuel depth : Nat) (member : String × Json) (rest : List Char) :
    readOthers fuel depth member ('}' :: rest) = .ok ([member], rest) := rfl

theorem readMembers_member {key : String} (reads : Reads depth spells)
    (spelled : SpellsMember spells text (key, value)) (stops : Stops isNumeric rest)
    (enough : 2 * text.length ≤ fuel) :
    readMembers (fuel + 1) depth (text ++ rest) = readOthers fuel depth (key, value) rest := by
  cases spelled with
  | @colon _ right _ _ name content =>
      cases name with
      | blanks front spelledKey back =>
          obtain ⟨parts, spelledParts, rfl⟩ := spelledKey
          simp only [List.length_append, List.length_cons] at enough
          obtain ⟨left, read, same⟩ :=
            readValue_padded reads content stops (show 2 * right.length ≤ fuel by omega)
          rw [readMembers]
          simp only [List.append_assoc, List.cons_append, List.nil_append]
          rw [skipSpace_append front, skipSpace_cons (by decide)]
          simp only [readString_parts spelledParts]
          rw [skipSpace_append back, skipSpace_cons (by decide)]
          simp only [read, same, String.ofList_toList]
          rfl

theorem readMembers_separated (reads : Reads depth spells)
    (parted : Separated (SpellsMember spells) text members) (rest : List Char)
    (enough : 2 * text.length + 1 ≤ fuel) :
    readMembers fuel depth (text ++ '}' :: rest) = .ok (members, rest) := by
  induction parted generalizing fuel with
  | last spelled =>
      obtain ⟨fuel, rfl⟩ := Nat.exists_eq_add_of_le' (Nat.le_of_add_left_le enough)
      rw [readMembers_member reads spelled (stops_cons.mpr (by decide)) (by omega),
        readOthers_brace]
  | @more text others member members spelled _ ih =>
      obtain ⟨fuel, rfl⟩ := Nat.exists_eq_add_of_le' (Nat.le_of_add_left_le enough)
      simp only [List.length_append, List.length_cons] at enough
      rw [List.append_assoc, List.cons_append,
        readMembers_member reads spelled (stops_cons.mpr (by decide)) (by omega),
        readOthers_comma, ih (by omega)]
      rfl

/-- No item starts with a closing bracket. -/
theorem readItems_closing (fuel depth : Nat) (rest : List Char) {found : List Json × List Char} :
    readItems fuel depth (']' :: rest) ≠ .ok found := by
  rcases fuel with _ | _ | fuel <;> exact nofun

/-- No member starts with a closing brace. -/
theorem readMembers_closing (fuel depth : Nat) (rest : List Char)
    {found : List (String × Json) × List Char} :
    readMembers fuel depth ('}' :: rest) ≠ .ok found := by
  rcases fuel with _ | fuel <;> exact nofun

theorem readValue_bracket (fuel depth : Nat) (cs : List Char) :
    readValue (fuel + 1) (depth + 1) ('[' :: cs) =
      match skipSpace cs with
      | ']' :: rest => .ok (.arr [], rest)
      | rest => (readItems fuel depth rest).map fun read => (.arr read.1, read.2) := rfl

theorem readValue_brace (fuel depth : Nat) (cs : List Char) :
    readValue (fuel + 1) (depth + 1) ('{' :: cs) =
      match skipSpace cs with
      | '}' :: rest => .ok (.obj [], rest)
      | rest => (readMembers fuel depth rest).map fun read => (.obj read.1, read.2) := rfl

theorem readValue_array (reads : Reads depth spells) (listed : Listed (Padded spells) inner items)
    (enough : 2 * inner.length + 1 ≤ fuel) :
    readValue (fuel + 1) (depth + 1) ('[' :: (inner ++ ']' :: rest)) = .ok (.arr items, rest) := by
  rw [readValue_bracket]
  cases listed with
  | empty blank =>
      rw [skipSpace_append blank, skipSpace_cons (by decide)]
      rfl
  | parts parted =>
      have read := readItems_separated reads parted rest enough
      rw [← readItems_congr (skipSpace_skipSpace _)] at read
      split
      case h_1 closing => exact absurd (closing ▸ read) (readItems_closing fuel depth _)
      case h_2 => rw [read]; rfl

theorem readValue_object (reads : Reads depth spells)
    (listed : Listed (SpellsMember spells) inner members) (enough : 2 * inner.length + 1 ≤ fuel) :
    readValue (fuel + 1) (depth + 1) ('{' :: (inner ++ '}' :: rest)) =
      .ok (.obj members, rest) := by
  rw [readValue_brace]
  cases listed with
  | empty blank =>
      rw [skipSpace_append blank, skipSpace_cons (by decide)]
      rfl
  | parts parted =>
      have read := readMembers_separated reads parted rest enough
      rw [← readMembers_congr (skipSpace_skipSpace _)] at read
      split
      case h_1 closing => exact absurd (closing ▸ read) (readMembers_closing fuel depth _)
      case h_2 => rw [read]; rfl

/-! ## Values -/

theorem reads_scalar (depth : Nat) : Reads depth SpellsScalar := by
  intro text rest value fuel spelled stops enough
  have some := List.length_pos_of_ne_nil spelled.ne_nil
  obtain ⟨fuel, rfl⟩ := Nat.exists_eq_add_of_le' (show 1 ≤ fuel by omega)
  exact readValue_scalar spelled stops

/-- Every text that spells a value is read as that value. -/
theorem reads_spells (depth : Nat) : Reads depth (Spells depth) := by
  induction depth with
  | zero => exact reads_scalar 0
  | succ depth ih =>
      intro text rest value fuel spelled stops enough
      rcases spelled with scalar | ⟨inner, items, listed, rfl, rfl⟩ |
        ⟨inner, members, listed, rfl, rfl⟩
      · exact reads_scalar (depth + 1) scalar stops enough
      all_goals
        simp only [List.length_append, List.length_cons, List.length_nil] at enough
        obtain ⟨fuel, rfl⟩ := Nat.exists_eq_add_of_le' (show 1 ≤ fuel by omega)
        rw [List.cons_append, List.append_assoc, List.singleton_append]
      · exact readValue_array ih listed (by omega)
      · exact readValue_object ih listed (by omega)

/-- A text is read as the value that it is the text of. -/
theorem readWithin_of_isText {limit : Nat} {text : String} (spelled : IsText limit text value) :
    readWithin limit text = .ok value := by
  have enough : 2 * text.toList.length ≤ stepBound text.toList := Nat.le_add_right _ 2
  obtain ⟨left, read, same⟩ :=
    readValue_padded (reads_spells limit) spelled (stops_nil isNumeric) enough
  rw [List.append_nil] at read
  simp only [readWithin, read, same]
  rfl

theorem read?_of_isText {text : String} (spelled : IsText nestingLimit text value) :
    read? text = some value := by
  rw [read?, read, readWithin_of_isText spelled]
  rfl

end Json
end KubeLens
