import TypedMemory.Json.Record
import TypedMemory.Proofs.Grammar

/-!
# Objects that give a record

A form says which settings a record is given by, how each is spelled, and what it changes
(`Json.Form`). An object of a form gives each of its settings by a member, in any order and
with other members in between, whose values are passed over (`Json.Listed`). The keys of
these others are any strings, or only strings that spell a text: a key is read before anyone
knows what to do with it. Whatever record has fields that read the settings of a form is
read from such an object over a default: with the settings in place if every key spells a
text and no setting is given twice (`Json.Form.ReadBy.record`), and not at all otherwise
(`Json.Form.ReadBy.legible_or_refused`). Since the value of a setting may itself be such an
object, this holds at every level of a document.
-/

namespace TypedMemory

namespace Json

/-! ## Readers -/

/-- The document gives something twice. -/
def Fault.Repeats (fault : Fault) : Prop :=
  ∃ name, fault.cause = .duplicateField name

namespace Reader

variable {α β : Type}

/-- Behind any blanks a reader reads the characters as a value, and leaves what follows. -/
def Reads (reader : Reader α) (chars : List Char) (value : α) : Prop :=
  ∀ ⦃blanks : List Char⦄ (rest : List Char), Blank blanks →
    reader.run (blanks ++ (chars ++ rest)) = .ok (value, rest)

/-- Behind any blanks a reader refuses the characters, with a fault of some kind. -/
def Refuses (reader : Reader α) (Kind : Fault → Prop) (chars : List Char) : Prop :=
  ∀ ⦃blanks : List Char⦄ (rest : List Char), Blank blanks →
    ∃ fault, reader.run (blanks ++ (chars ++ rest)) = .error fault ∧ Kind fault

/-- What is made of a value is made of what is read. -/
theorem Reads.map {reader : Reader α} {chars : List Char} {value : α}
    (reads : reader.Reads chars value) (f : α → β) : (reader.map f).Reads chars (f value) := by
  intro blanks rest blank
  change mapRun reader f _ = _
  rw [mapRun, reads rest blank]
  rfl

/-- A reader refuses what it refuses, whatever is made of the value. -/
theorem Refuses.map {reader : Reader α} {Kind : Fault → Prop} {chars : List Char}
    (refuses : reader.Refuses Kind chars) (f : α → β) : (reader.map f).Refuses Kind chars := by
  intro blanks rest blank
  obtain ⟨fault, refused, kind⟩ := refuses rest blank
  refine ⟨fault, ?_, kind⟩
  change mapRun reader f _ = _
  rw [mapRun, refused]
  rfl

/-- A reader of texts reads the text that a string spells. -/
theorem reads_text {chars : List Char} {value : String} (quotes : Quotes chars value.toList)
    (expected : String) : (text expected).Reads ('"' :: chars) value := by
  intro blanks rest blank
  change textRun expected (blanks ++ '"' :: (chars ++ rest)) = _
  rw [textRun, skipSpace_append blank rfl]
  simp [quotes.readText, Except.map]

/-- Null is read as nothing. -/
theorem reads_nullable_null (reader : Reader α) :
    (nullable reader).Reads ['n', 'u', 'l', 'l'] none := by
  intro blanks rest blank
  change nullableRun reader (blanks ++ 'n' :: (['u', 'l', 'l'] ++ rest)) = _
  rw [nullableRun, skipSpace_append blank rfl]
  rfl

/-- What does not begin like null is read as something. -/
theorem Reads.nullable {reader : Reader α} {char : Char} {chars : List Char} {value : α}
    (reads : reader.Reads (char :: chars) value) (solid : isSpace char = false)
    (present : char ≠ 'n') : (nullable reader).Reads (char :: chars) (some value) := by
  intro blanks rest blank
  have taken := reads.map some rest blank_nil
  change nullableRun reader (blanks ++ char :: (chars ++ rest)) = _
  rw [nullableRun, skipSpace_append blank solid]
  simp only [present, ↓reduceIte]
  exact taken

/-- The word for a flag that is set is read so. -/
theorem reads_flag_yes : flag.Reads ['t', 'r', 'u', 'e'] true := by
  intro blanks rest blank
  change flagRun (blanks ++ 't' :: (['r', 'u', 'e'] ++ rest)) = _
  rw [flagRun, skipSpace_append blank rfl]
  rfl

/-- The word for one that is not set is read so. -/
theorem reads_flag_no : flag.Reads ['f', 'a', 'l', 's', 'e'] false := by
  intro blanks rest blank
  change flagRun (blanks ++ 'f' :: (['a', 'l', 's', 'e'] ++ rest)) = _
  rw [flagRun, skipSpace_append blank rfl]
  rfl

/-- Behind its colon, a member's value is read as any value is. -/
theorem member_colon {colon : List Char} (between : Colon colon) (reader : Reader α)
    (rest : List Char) :
    ∃ blanks, Blank blanks ∧ reader.member.run (colon ++ rest) = reader.run (blanks ++ rest) := by
  obtain ⟨blanks, blank, passed⟩ := between.skipColon rest
  refine ⟨blanks, blank, ?_⟩
  change memberRun reader (colon ++ rest) = _
  rw [memberRun, passed]
  rfl

end Reader

/-- A value that nobody asked for is passed over. -/
theorem Written.ignored {chars rest : List Char} (written : Written .value chars)
    {blanks : List Char} (blank : Blank blanks) (ends : Ends rest) :
    Reader.ignored.run (blanks ++ (chars ++ rest)) = .ok ((), rest) := by
  have skipped := written.skips [] blank ends
  change (skipFrom .value [] _).map _ = _
  rw [skipped, skipFrom_passed_nil]
  rfl

/-! ## The members of an object -/

/-- How settings give a record: the key and the spellings of each setting, whether nothing
inside it is given twice, and the change that it makes. If a setting is spelled by an object,
that depends on which strings may be keys of other members there. -/
structure Form (κ ρ : Type) where
  name : κ → String
  Value : (Key : List Char → Prop) → κ → List Char → Prop
  Sound : κ → Prop
  put : κ → ρ → ρ

/-- The characters of an object from behind its opening bracket, or from behind a member of
it, and the settings that they give. Members of other names may stand between them, with
keys from among the given strings. -/
inductive Listed {κ ρ : Type} (form : Form κ ρ) (Key : List Char → Prop) :
    Bool → List κ → List Char → Prop
  | close {first : Bool} {blanks : List Char} (blank : Blank blanks) :
      Listed form Key first [] (blanks ++ ['\x7d'])
  | setting {first : Bool} {setting : κ} {given : List κ} {before key colon chars more : List Char}
      (separator : Separator first before) (quotes : Quotes key (form.name setting).toList)
      (between : Colon colon) (value : form.Value Key setting chars)
      (members : Listed form Key false given more) :
      Listed form Key first (setting :: given) (before ++ '"' :: key ++ colon ++ chars ++ more)
  | other {first : Bool} {given : List κ} {before key colon chars more : List Char}
      (separator : Separator first before) (allowed : Key key)
      (unknown : ∀ setting, ¬ Quotes key (form.name setting).toList) (between : Colon colon)
      (value : Written .value chars) (members : Listed form Key false given more) :
      Listed form Key first given (before ++ '"' :: key ++ colon ++ chars ++ more)

namespace Form

variable {κ ρ : Type}

/-- The fields of a record read a form: each setting is the field of its name, and its value
is read as the change that it makes unless something inside it is given twice. If a key inside
it spells no text, it is not read at all. -/
structure ReadBy (form : Form κ ρ) (fields : List (Field ρ)) : Prop where
  known : ∀ setting, ∃ field, fields.find? (·.name == form.name setting) = some field ∧
    (∀ chars, form.Value Legible setting chars →
      (form.Sound setting → field.reader.Reads chars (form.put setting)) ∧
      (¬ form.Sound setting → field.reader.Refuses Fault.Repeats chars)) ∧
    ∀ chars, form.Value Quoted setting chars →
      form.Value Legible setting chars ∨ field.reader.Refuses (fun _ => True) chars
  unknown : ∀ name, (∀ setting, form.name setting ≠ name) →
    fields.find? (·.name == name) = none

/-- Where no value is an object, it is enough that each value is read. -/
theorem ReadBy.of_scalars {form : Form κ ρ} {fields : List (Field ρ)}
    (sound : ∀ setting, form.Sound setting)
    (keyless : ∀ setting chars, form.Value Quoted setting chars →
      form.Value Legible setting chars)
    (known : ∀ setting, ∃ field, fields.find? (·.name == form.name setting) = some field ∧
      ∀ chars, form.Value Legible setting chars → field.reader.Reads chars (form.put setting))
    (unknown : ∀ name, (∀ setting, form.name setting ≠ name) →
      fields.find? (·.name == name) = none) : form.ReadBy fields where
  known setting := by
    obtain ⟨field, found, reads⟩ := known setting
    refine ⟨field, found, ?_, fun chars value => .inl (keyless setting chars value)⟩
    intro chars value
    exact ⟨fun _ => reads chars value, fun unsound => absurd (sound setting) unsound⟩
  unknown := unknown

/-- Nothing is given twice. -/
def Once (form : Form κ ρ) (given : List κ) : Prop :=
  (given.map form.name).Nodup ∧ ∀ setting ∈ given, form.Sound setting

/-- The record with the settings in place. -/
def overlay (form : Form κ ρ) (given : List κ) (record : ρ) : ρ :=
  given.foldl (fun record setting => form.put setting record) record

/-- Nothing is given twice, nor what was given before. -/
def Fresh (form : Form κ ρ) : List String → List κ → Prop
  | _, [] => True
  | seen, setting :: given =>
      form.name setting ∉ seen ∧ form.Sound setting ∧ Fresh form (form.name setting :: seen) given

/-- Settings are new to a reader exactly if none is given twice and none was seen before. -/
theorem fresh_iff (form : Form κ ρ) (seen : List String) (given : List κ) :
    form.Fresh seen given ↔
      form.Once given ∧ ∀ setting ∈ given, form.name setting ∉ seen := by
  induction given generalizing seen with
  | nil => simp [Fresh, Once]
  | cons setting given ih =>
      simp only [Fresh, ih, Once, List.map_cons, List.nodup_cons, List.mem_map,
        List.mem_cons]
      grind

end Form

/-- The brace that closes an object is found after blanks. -/
theorem nextKey_close {blanks : List Char} (blank : Blank blanks) (first : Bool)
    (rest : List Char) : nextKey first (blanks ++ '\x7d' :: rest) = .ok (none, rest) := by
  rw [nextKey, skipSpace_append blank rfl]
  rfl

/-- Behind its separator, the key of a member is read as a string. -/
theorem nextKey_separator {first : Bool} {before : List Char} (separator : Separator first before)
    (rest : List Char) : nextKey first (before ++ '"' :: rest) = readKey rest := by
  cases separator with
  | first blank =>
      rw [nextKey, skipSpace_append blank rfl]
      rfl
  | @later before after blankBefore blankAfter =>
      rw [List.append_assoc, List.cons_append, nextKey, skipSpace_append blankBefore rfl]
      change readLaterKey (after ++ '"' :: rest) = _
      rw [readLaterKey, skipSpace_append blankAfter rfl]
      rfl

/-- A key is found after what separates it from the member before, and read as the text that it
spells. -/
theorem nextKey_listed {first : Bool} {before key : List Char} {name : String}
    (separator : Separator first before) (quotes : Quotes key name.toList) (rest : List Char) :
    nextKey first (before ++ '"' :: (key ++ rest)) = .ok (some name, rest) := by
  rw [nextKey_separator separator]
  simp [readKey, quotes.readText, Except.map]

section Members

variable {κ ρ : Type} {form : Form κ ρ} {Key : List Char → Prop} {fields : List (Field ρ)}
  {given : List κ} {first : Bool} {chars : List Char}

/-- What follows a member ends a number. -/
theorem Listed.ends (listed : Listed form Key false given chars) (rest : List Char) :
    Ends (chars ++ rest) := by
  cases listed with
  | close blank =>
      rw [List.append_assoc]
      exact (ends_closing .object rest).blanks blank
  | setting separator _ _ _ _ =>
      simp only [List.append_assoc]
      exact separator.ends _
  | other separator _ _ _ _ _ =>
      simp only [List.append_assoc]
      exact separator.ends _

/-- At a setting its key leads to its field, and the field reads the value. -/
theorem Form.ReadBy.found (readBy : form.ReadBy fields) {setting : κ}
    {before key colon value : List Char} (separator : Separator first before)
    (quotes : Quotes key (form.name setting).toList) (between : Colon colon)
    (spelled : form.Value Legible setting value) (rest : List Char) :
    ∃ field behind,
      nextKey first (before ++ '"' :: (key ++ (colon ++ (value ++ rest)))) =
        .ok (some (form.name setting), behind) ∧
      fields.find? (·.name == form.name setting) = some field ∧
      (form.Sound setting → field.reader.member.run behind = .ok (form.put setting, rest)) ∧
      (¬ form.Sound setting →
        ∃ fault, field.reader.member.run behind = .error fault ∧ fault.Repeats) := by
  obtain ⟨field, known, read, -⟩ := readBy.known setting
  obtain ⟨reads, refuses⟩ := read value spelled
  obtain ⟨blanks, blank, behind⟩ := Reader.member_colon between field.reader (value ++ rest)
  refine ⟨field, colon ++ (value ++ rest), nextKey_listed separator quotes _, known, ?_, ?_⟩
  · intro sound
    exact behind.trans (reads sound rest blank)
  · intro unsound
    obtain ⟨fault, refused, repeats⟩ := refuses unsound rest blank
    exact ⟨fault, behind.trans refused, repeats⟩

/-- A member of another name is passed over. -/
theorem readMembers_unknown (readBy : form.ReadBy fields) {before key colon value : List Char}
    (separator : Separator first before) (legible : Legible key)
    (unknown : ∀ setting, ¬ Quotes key (form.name setting).toList) (between : Colon colon)
    (written : Written .value value) {rest : List Char} (ends : Ends rest) (seen : List String)
    (record : ρ) :
    readMembers fields seen first record (before ++ '"' :: (key ++ (colon ++ (value ++ rest)))) =
      readMembers fields seen false record rest := by
  obtain ⟨text, quotes⟩ := legible
  have spelled : Quotes key (String.ofList text).toList := by
    rwa [String.toList_ofList]
  have other : ∀ setting, form.name setting ≠ String.ofList text := by
    intro setting same
    exact unknown setting (same ▸ spelled)
  have named := nextKey_listed separator spelled (colon ++ (value ++ rest))
  obtain ⟨blanks, blank, behind⟩ := Reader.member_colon between Reader.ignored (value ++ rest)
  exact readMembers_other named (readBy.unknown _ other)
    (behind.trans (written.ignored blank ends))

/-- Settings that are given once are read as the changes that they make. -/
theorem Listed.readMembers (readBy : form.ReadBy fields)
    (listed : Listed form Legible first given chars) {seen : List String}
    (fresh : form.Fresh seen given) (record : ρ) (rest : List Char) :
    readMembers fields seen first record (chars ++ rest) =
      .ok (form.overlay given record, rest) := by
  -- The record and the names that were seen grow on the way.
  induction listed generalizing seen record with
  | @close first blanks blank =>
      rw [List.append_assoc]
      exact readMembers_end (nextKey_close blank first rest)
  | @setting first setting given before key colon chars more separator quotes between value members
      ih =>
      obtain ⟨new, sound, fresh⟩ := fresh
      obtain ⟨field, behind, named, known, reads, -⟩ :=
        readBy.found separator quotes between value (more ++ rest)
      simp only [List.append_assoc, List.cons_append]
      rw [readMembers_field named known new (reads sound)]
      exact ih fresh (form.put setting record)
  | other separator legible unknown between value members ih =>
      simp only [List.append_assoc, List.cons_append]
      rw [readMembers_unknown readBy separator legible unknown between value (members.ends rest)]
      exact ih fresh record

/-- The error for a field that comes twice is one of repetition. -/
theorem duplicate_repeats (name : String) (chars : List Char) :
    (duplicate name chars).Repeats := by
  unfold duplicate
  split <;> exact ⟨name, rfl⟩

/-- A setting that is given again is refused, wherever it stands. -/
theorem Listed.refused (readBy : form.ReadBy fields)
    (listed : Listed form Legible first given chars) {seen : List String}
    (stale : ¬ form.Fresh seen given) (record : ρ) (rest : List Char) :
    ∃ fault, Json.readMembers fields seen first record (chars ++ rest) = .error fault ∧
      fault.Repeats := by
  induction listed generalizing seen record with
  | close _ => exact absurd trivial stale
  | @setting first setting given before key colon chars more separator quotes between value members
      ih =>
      obtain ⟨field, behind, named, known, reads, refuses⟩ :=
        readBy.found separator quotes between value (more ++ rest)
      simp only [List.append_assoc, List.cons_append]
      -- It was given before, or is refused for what is inside it, or one behind it is refused.
      by_cases new : form.name setting ∉ seen
      · by_cases sound : form.Sound setting
        · rw [readMembers_field named known new (reads sound)]
          exact ih (fun fresh => stale ⟨new, sound, fresh⟩) (form.put setting record)
        · obtain ⟨fault, refused, repeats⟩ := refuses sound
          exact ⟨fault, readMembers_refused named known new refused, repeats⟩
      · exact ⟨_, readMembers_duplicate named known (not_not.mp new), duplicate_repeats _ _⟩
  | other separator legible unknown between value members ih =>
      simp only [List.append_assoc, List.cons_append]
      rw [readMembers_unknown readBy separator legible unknown between value (members.ends rest)]
      exact ih stale record

/-- A setting that comes before something that is not read does not help. -/
theorem readMembers_setting_refused (readBy : form.ReadBy fields) {setting : κ}
    {before key colon value more : List Char} (separator : Separator first before)
    (quotes : Quotes key (form.name setting).toList) (between : Colon colon)
    (spelled : form.Value Quoted setting value)
    (refused : form.Value Legible setting value → ∀ seen record rest,
      ∃ fault, Json.readMembers fields seen false record (more ++ rest) = .error fault)
    (seen : List String) (record : ρ) (rest : List Char) :
    ∃ fault, Json.readMembers fields seen first record
      (before ++ '"' :: (key ++ (colon ++ (value ++ (more ++ rest))))) = .error fault := by
  obtain ⟨field, known, read, legibly⟩ := readBy.known setting
  have named := nextKey_listed separator quotes (colon ++ (value ++ (more ++ rest)))
  obtain ⟨blanks, blank, behind⟩ :=
    Reader.member_colon between field.reader (value ++ (more ++ rest))
  by_cases new : form.name setting ∉ seen
  · rcases legibly value spelled with legible | refuses
    · by_cases sound : form.Sound setting
      · rw [readMembers_field named known new
          (behind.trans ((read value legible).1 sound _ blank))]
        exact refused legible _ _ rest
      · obtain ⟨fault, failed, _⟩ := (read value legible).2 sound (more ++ rest) blank
        exact ⟨fault, readMembers_refused named known new (behind.trans failed)⟩
    · obtain ⟨fault, failed, _⟩ := refuses (more ++ rest) blank
      exact ⟨fault, readMembers_refused named known new (behind.trans failed)⟩
  · exact ⟨_, readMembers_duplicate named known (not_not.mp new)⟩

/-- If a key spells no text, at whatever level, the members are not read. -/
theorem Listed.legible_or_refused (readBy : form.ReadBy fields)
    (listed : Listed form Quoted first given chars) :
    Listed form Legible first given chars ∨ ∀ seen record rest,
      ∃ fault, Json.readMembers fields seen first record (chars ++ rest) = .error fault := by
  induction listed with
  | close blank => exact .inl (.close blank)
  | @setting first setting given before key colon value more separator quotes between spelled
      members ih =>
      by_cases legible : form.Value Legible setting value ∧ Listed form Legible false given more
      · exact .inl (.setting separator quotes between legible.1 legible.2)
      · right
        intro seen record rest
        simp only [List.append_assoc, List.cons_append]
        refine readMembers_setting_refused readBy separator quotes between spelled ?_ seen record
          rest
        intro inside
        exact ih.resolve_left fun others => legible ⟨inside, others⟩
  | @other first given before key colon value more separator quoted unknown between written members
      ih =>
      rcases quoted.legible_or_refused with legible | unread
      · rcases ih with others | refused
        · exact .inl (.other separator legible unknown between written others)
        · right
          intro seen record rest
          simp only [List.append_assoc, List.cons_append]
          rw [readMembers_unknown readBy separator legible unknown between written
            (members.ends rest)]
          exact refused seen record rest
      · right
        intro seen record rest
        obtain ⟨fault, unread⟩ := unread (colon ++ (value ++ (more ++ rest)))
        have broken : nextKey first
            (before ++ '"' :: (key ++ (colon ++ (value ++ (more ++ rest))))) = .error fault := by
          rw [nextKey_separator separator, readKey, unread]
          rfl
        simp only [List.append_assoc, List.cons_append]
        exact ⟨fault, readMembers_broken broken⟩

end Members

/-- A record is read from behind the opening bracket of an object. -/
theorem Reader.record_run {ρ : Type} (title : String) (fields : List (Field ρ)) (default : ρ)
    {blanks : List Char} (blank : Blank blanks) (chars rest : List Char) :
    (Reader.record title fields default).run (blanks ++ ('\x7b' :: chars ++ rest)) =
      readMembers fields [] true default (chars ++ rest) := by
  change recordRun title fields default (blanks ++ '\x7b' :: (chars ++ rest)) = _
  rw [recordRun, skipSpace_append blank rfl]
  rfl

namespace Form.ReadBy

variable {κ ρ : Type} {form : Form κ ρ} {fields : List (Field ρ)} {given : List κ}
  {chars : List Char}

/-- An object is read as the default record with the settings in place, unless one of them is
given twice. -/
theorem record (readBy : form.ReadBy fields) (listed : Listed form Legible true given chars)
    (title : String) (default : ρ) :
    (form.Once given →
      (Reader.record title fields default).Reads ('\x7b' :: chars) (form.overlay given default)) ∧
    (¬ form.Once given →
      (Reader.record title fields default).Refuses Fault.Repeats ('\x7b' :: chars)) := by
  have fresh_iff : form.Fresh [] given ↔ form.Once given := by simp [form.fresh_iff]
  rw [← fresh_iff]
  constructor
  · intro fresh blanks rest blank
    rw [Reader.record_run title fields default blank]
    exact listed.readMembers readBy fresh default rest
  · intro stale blanks rest blank
    rw [Reader.record_run title fields default blank]
    exact listed.refused readBy stale default rest

/-- An object with a key that spells no text is not read. -/
theorem legible_or_refused (readBy : form.ReadBy fields)
    (listed : Listed form Quoted true given chars) (title : String) (default : ρ) :
    Listed form Legible true given chars ∨
      (Reader.record title fields default).Refuses (fun _ => True) ('\x7b' :: chars) := by
  rcases listed.legible_or_refused readBy with legible | refused
  · exact .inl legible
  · right
    intro blanks rest blank
    obtain ⟨fault, failed⟩ := refused [] default rest
    refine ⟨fault, ?_, trivial⟩
    rw [Reader.record_run title fields default blank, failed]

end Form.ReadBy

end Json

end TypedMemory
