import TypedMemory.Proofs.Members
import TypedMemory.Settings.Document

/-!
# Settings read back from their texts

A reader takes a document as a value if it reads every spelling of the document
as that value, whatever blanks stand before it and whatever follows it
(`Json.Reader.Takes`). Each reader of the library takes the documents that its
values are written as, and so does a record whose members fill it
(`Json.Reader.takes_record`). Settings are therefore what is read from either of
their texts, and only a path that is no text keeps them from being written.
-/

namespace TypedMemory

namespace Json

/-- A reader takes a document as a value: behind any blanks it reads every
spelling of the document as the value, and leaves what follows. -/
def Reader.Takes {α : Type} (reader : Reader α) (document : Document) (value : α) : Prop :=
  ∀ ⦃blanks chars : List Char⦄ (rest : List Char), Blank blanks → Spells document chars →
    reader.run (blanks ++ chars ++ rest) = .ok (value, rest)

namespace Reader

variable {α β : Type} {document : Document}

/-- A reader takes a document as a value exactly if it reads the value from every spelling of
the document. -/
theorem takes_iff {reader : Reader α} {value : α} :
    reader.Takes document value ↔ ∀ chars, Spells document chars → reader.Reads chars value := by
  constructor
  · intro takes chars spelled blanks rest blank
    rw [← List.append_assoc]
    exact takes rest blank spelled
  · intro reads blanks chars rest blank spelled
    rw [List.append_assoc]
    exact reads chars spelled rest blank

/-- What is made of a value is made of what a reader takes. -/
theorem takes_map {reader : Reader α} {value : α} (takes : reader.Takes document value)
    (f : α → β) : (reader.map f).Takes document (f value) := by
  rw [takes_iff] at takes ⊢
  exact fun chars spelled => (takes chars spelled).map f

/-- A reader of texts takes a text as itself. -/
theorem takes_text (expected value : String) : (text expected).Takes (.text value) value := by
  rw [takes_iff]
  intro chars spelled
  cases spelled
  exact reads_text (quotes_writeChar value.toList) expected

/-- A reader of flags takes a flag as itself. -/
theorem takes_flag (value : Bool) : flag.Takes (.boolean value) value := by
  rw [takes_iff]
  intro chars spelled
  cases spelled with
  | yes => exact reads_flag_yes
  | no => exact reads_flag_no

/-- Null is nothing to a reader of what may be missing. -/
theorem takes_nullable_null (reader : Reader α) : (nullable reader).Takes .null none := by
  rw [takes_iff]
  intro chars spelled
  cases spelled
  exact reads_nullable_null reader

/-- Any other document is to it what it is to the reader inside. -/
theorem takes_nullable {reader : Reader α} {value : α} (takes : reader.Takes document value)
    (present : document ≠ .null) : (nullable reader).Takes document (some value) := by
  rw [takes_iff] at takes ⊢
  intro chars spelled
  -- What is no `null` does not start like one.
  obtain ⟨char, more, rfl, solid, notLetter⟩ := spelled.head
  exact (takes _ spelled).nullable solid (notLetter present)

/-- Behind a key, a reader reads the value after the colon and blanks. -/
theorem Takes.member {reader : Reader α} {value : α} {between chars : List Char}
    (takes : reader.Takes document value) (blank : Blank between)
    (spelled : Spells document chars) (rest : List Char) :
    reader.member.run (':' :: between ++ chars ++ rest) = .ok (value, rest) := by
  have colon : skipColon (':' :: between ++ chars ++ rest) = .ok (between ++ chars ++ rest) := rfl
  change memberRun reader (':' :: between ++ chars ++ rest) = _
  rw [memberRun, colon]
  exact takes rest blank spelled

end Reader

/-! ## Records -/

/-- A written key is read, after a comma unless it is the first. -/
theorem nextKey_member {before : List Char} (blank : Blank before) (first : Bool) (name : String)
    (rest : List Char) :
    nextKey first ((if first then [] else [',']) ++ before ++ writeText name ++ rest) =
      .ok (some name, rest) := by
  have separator : Separator first ((if first then [] else [',']) ++ before) := by
    cases first with
    | true => exact .first blank
    | false => exact .later blank_nil blank
  have named := nextKey_listed separator (quotes_writeChar name.toList) rest
  simpa [writeText] using named

/-- Members fill a record: each is a field that was not given before, and its
reader takes the member's value as the change that it makes. -/
inductive Fills {ρ : Type} (fields : List (Field ρ)) :
    List String → ρ → List (String × Document) → ρ → Prop
  | done {seen : List String} {record : ρ} : Fills fields seen record [] record
  | field {seen : List String} {record result : ρ} {name : String} {value : Document}
      {members : List (String × Document)} {field : Field ρ} {change : ρ → ρ}
      (known : fields.find? (·.name == name) = some field) (new : name ∉ seen)
      (takes : field.reader.Takes value change)
      (more : Fills fields (name :: seen) (change record) members result) :
      Fills fields seen record ((name, value) :: members) result

/-- Members that fill a record are read as what they fill it to. -/
theorem Fills.readMembers {ρ : Type} {fields : List (Field ρ)} {seen : List String}
    {record result : ρ} {members : List (String × Document)}
    (filled : Fills fields seen record members result) {first : Bool} {chars : List Char}
    (spelled : SpellsMembers first members chars) (rest : List Char) :
    readMembers fields seen first record (chars ++ rest) = .ok (result, rest) := by
  -- Reading goes on with other characters, and the first member alone has no comma.
  induction filled generalizing first chars with
  | done =>
      cases spelled with
      | close blank =>
          rw [List.append_assoc]
          exact readMembers_end (nextKey_close blank first rest)
  | @field _ _ _ name _ _ _ _ known new takes more ih =>
      cases spelled with
      | @member _ _ _ _ before between chars behind blankBefore blankBetween spelled listed =>
          have named := nextKey_member blankBefore first name
            (':' :: between ++ chars ++ (behind ++ rest))
          have taken := takes.member blankBetween spelled (behind ++ rest)
          simp only [List.append_assoc, List.cons_append] at named taken ⊢
          rw [readMembers_field named known new taken]
          exact ih listed

/-- An object is read as a record, if its members fill the fields one by one. -/
theorem Reader.takes_record {ρ : Type} {fields : List (Field ρ)} {default result : ρ}
    {members : List (String × Document)} (filled : Fills fields [] default members result)
    (title : String) : (Reader.record title fields default).Takes (.object members) result := by
  intro blanks chars rest blank spelled
  change recordRun title fields default _ = _
  unfold recordRun
  rw [spelled.skipSpace blank]
  cases spelled with
  | object listed => exact filled.readMembers listed rest

/-- A reader that takes a document reads every spelling of it to the end. -/
theorem Reader.Takes.readDocument {α : Type} {reader : Reader α} {document : Document} {value : α}
    {chars : List Char} (takes : reader.Takes document value) (spelled : Spells document chars) :
    readDocument reader.run (String.ofList chars) = .ok value := by
  have read : reader.run chars = .ok (value, []) := by
    simpa using takes [] blank_nil spelled
  simp [Json.readDocument, read, skipSpace]

end Json

open Json

/-! ## Settings -/

/-- A path that is a text is the path of that text. -/
theorem Path.ofText_of_text? {path : Path} {text : String} (spelled : path.text? = some text) :
    Path.ofText text = path :=
  congrArg Path.mk (Utf8.encode_of_decode? spelled)

/-- A path is a text exactly if some text spells it. -/
theorem Path.isSome_text?_iff (path : Path) :
    path.text?.isSome ↔ ∃ text, Path.ofText text = path := by
  constructor
  · intro spelled
    obtain ⟨text, spelled⟩ := Option.isSome_iff_exists.mp spelled
    exact ⟨text, Path.ofText_of_text? spelled⟩
  · rintro ⟨text, rfl⟩
    exact Option.isSome_of_eq_some (Utf8.decode?_encode text)

namespace AcceleratorSettings

/-- A path that was written is read back, and so is one that is missing. -/
theorem takes_pathDocument? {path? : Option Path} {document : Document} (expected : String)
    (written : pathDocument? path? = some document) :
    ∃ text? : Option String, (Reader.nullable (.text expected)).Takes document text? ∧
      text?.map Path.ofText = path? := by
  cases path? with
  | none =>
      cases written
      exact ⟨none, Reader.takes_nullable_null _, rfl⟩
  | some path =>
      obtain ⟨text, spelled, rfl⟩ := Option.map_eq_some_iff.mp written
      refine ⟨some text, Reader.takes_nullable (Reader.takes_text expected text) nofun, ?_⟩
      rw [Option.map_some, Path.ofText_of_text? spelled]

/-- A path can be written exactly if it is missing or some text spells it. -/
theorem isSome_pathDocument?_iff (path? : Option Path) :
    (pathDocument? path?).isSome ↔ ∀ path ∈ path?, ∃ text, Path.ofText text = path := by
  cases path? with
  | none => simp [pathDocument?]
  | some path => simp [pathDocument?, Path.isSome_text?_iff]

/-- Accelerator settings that were written are read back. -/
theorem takes_document? {settings : AcceleratorSettings} {document : Document}
    (written : settings.document? = some document) : reader.Takes document settings := by
  obtain ⟨path, writtenPath, rfl⟩ := Option.map_eq_some_iff.mp written
  obtain ⟨text?, takesPath, samePath⟩ := takes_pathDocument? "path string" writtenPath
  obtain ⟨libraryPath, libraryEnv, symbolPrefix⟩ := settings
  cases samePath
  -- Every field is given, so nothing of the default is left in the end.
  apply Reader.takes_record
  apply Fills.field rfl (by decide) (Reader.takes_map takesPath _)
  apply Fills.field rfl (by decide) (Reader.takes_map (Reader.takes_text _ libraryEnv) _)
  apply Fills.field rfl (by decide) (Reader.takes_map (Reader.takes_text _ symbolPrefix) _)
  exact .done

end AcceleratorSettings

/-- Logging settings that were written are read back. -/
theorem LoggingSettings.takes_document (settings : LoggingSettings) :
    reader.Takes settings.document settings := by
  apply Reader.takes_record
  apply Fills.field rfl (by decide) (Reader.takes_map (Reader.takes_text _ settings.level) _)
  apply Fills.field rfl (by decide) (Reader.takes_map (Reader.takes_flag settings.ansi) _)
  exact .done

namespace Settings

/-- Settings that were written are read back. -/
theorem takes_document? {settings : Settings} {document : Document}
    (written : settings.document? = some document) : reader.Takes document settings := by
  obtain ⟨accelerator, writtenAccelerator, rfl⟩ := Option.map_eq_some_iff.mp written
  have takesAccelerator := AcceleratorSettings.takes_document? writtenAccelerator
  have takesLogging := settings.logging.takes_document
  apply Reader.takes_record
  apply Fills.field rfl (by decide) (Reader.takes_map takesAccelerator _)
  apply Fills.field rfl (by decide) (Reader.takes_map takesLogging _)
  exact .done

/-- Settings are read back from every spelling of their document. -/
theorem parse_spelled {settings : Settings} {document : Document} {chars : List Char}
    (held : settings.document? = some document) (spelled : Spells document chars) :
    Settings.parse (String.ofList chars) = .ok settings :=
  (takes_document? held).readDocument spelled

/-- Settings that were written on many lines are read back from the text. -/
theorem parse_of_pretty {settings : Settings} {text : String}
    (written : settings.pretty = .ok text) : Settings.parse text = .ok settings := by
  unfold pretty at written
  split at written
  · next document held =>
      cases written
      exact parse_spelled held (spells_prettyChars 0 document)
  · cases written

/-- The settings name no library path, or one that some text spells. -/
def SpelledByText (settings : Settings) : Prop :=
  ∀ path ∈ settings.accelerator.libraryPath, ∃ text, Path.ofText text = path

/-- Settings can be written exactly if the library path is a text. -/
theorem isSome_document?_iff (settings : Settings) :
    settings.document?.isSome ↔ settings.SpelledByText := by
  simp [document?, AcceleratorSettings.document?, SpelledByText,
    AcceleratorSettings.isSome_pathDocument?_iff]

/-- **Settings are read back from their texts.** Settings whose library path, if
there is one, is spelled by a text have a text without blanks and a text over
several lines, and reading either gives exactly these settings. Other settings
have neither. -/
theorem texts_parse_back (settings : Settings) :
    (settings.SpelledByText →
      (∃ text, settings.compact = .ok text ∧ Settings.parse text = .ok settings) ∧
      (∃ text, settings.pretty = .ok text ∧ Settings.parse text = .ok settings)) ∧
    (¬ settings.SpelledByText →
      settings.compact = .error notText ∧ settings.pretty = .error notText) := by
  rw [← isSome_document?_iff]
  constructor
  · intro spelled
    obtain ⟨document, held⟩ := Option.isSome_iff_exists.mp spelled
    constructor
    · refine ⟨document.compact, ?_, parse_spelled held (spells_compactChars document)⟩
      rw [Settings.compact, held]
    · refine ⟨document.pretty, ?_, parse_spelled held (spells_prettyChars 0 document)⟩
      rw [Settings.pretty, held]
  · intro unspelled
    have unheld : settings.document? = none := by simpa using unspelled
    constructor
    · rw [Settings.compact, unheld]
    · rw [Settings.pretty, unheld]

/-- Settings whose texts need every kind of escape. -/
def tangled : Settings :=
  { accelerator :=
      { libraryPath := some (.ofText "/tmp/\"quoted\"\\\x00\x1f\x7f😀")
        libraryEnv := "\x00\x08\t\n\x0b\x0c\r\x1f"
        symbolPrefix := "\"null\"\\u0000\uffff𝕂" }
    logging := { level := "", ansi := false } }

/-- Settings whose library path no text spells. -/
def misspelled : Settings :=
  tangled.withLibraryPath ⟨[0x2F, 0xED, 0xA0, 0x80]⟩

/-- Settings with every kind of escape come back from both texts; settings whose path is no text
have neither. -/
theorem tangled_texts_parse_back :
    (∃ text, tangled.compact = .ok text ∧ Settings.parse text = .ok tangled) ∧
    (∃ text, tangled.pretty = .ok text ∧ Settings.parse text = .ok tangled) ∧
    misspelled.compact = .error notText ∧ misspelled.pretty = .error notText := by
  have spelled : tangled.SpelledByText := by
    rintro path ⟨rfl⟩
    exact ⟨_, rfl⟩
  have unspelled : ¬ misspelled.SpelledByText := by
    rw [← isSome_document?_iff]
    decide +kernel
  obtain ⟨compact, pretty⟩ := (texts_parse_back tangled).1 spelled
  exact ⟨compact, pretty, (texts_parse_back misspelled).2 unspelled⟩

end Settings

end TypedMemory
