import Mathlib.Data.List.TakeWhile
import TypedMemory.Proofs.Members
import TypedMemory.Settings.Document

/-!
# Documents that give some of the settings

A document is an object of parts, and a part an object of settings. Each may come in any
order, may be left out, and may be given with other members in between (`Settings.Spelled`).
The value of another member is any value at all. If every key of the document and of its
parts spells a text, the document is read as the default settings with exactly the given ones
in place (`Settings.Overlays`), so that neither the order nor the other members matter, and it
is refused if a part or a setting of a part is given twice. A document with a key that spells
no text is refused, even if nobody asks for the key (`Settings.parse_overlays`,
`Settings.lone_surrogate_refused`).
-/

namespace TypedMemory

open Json

namespace Json.Form

variable {κ ρ : Type} {form : Form κ ρ} {given : List κ}

/-- What no given setting changes stays. -/
theorem overlay_of_kept (P : ρ → Prop) {record : ρ} (holds : P record)
    (kept : ∀ setting ∈ given, ∀ record, P record → P (form.put setting record)) :
    P (form.overlay given record) := by
  induction given generalizing record with
  | nil => exact holds
  | cons setting given ih =>
      obtain ⟨first, others⟩ := List.forall_mem_cons.mp kept
      exact ih (first record holds) others

/-- What a setting brings about holds in the end if the settings of other names keep it. -/
theorem overlay_of_mem (P : ρ → Prop) (record : ρ) {setting : κ} (once : form.Once given)
    (member : setting ∈ given) (brought : ∀ record, P (form.put setting record))
    (kept : ∀ other, form.name other ≠ form.name setting →
      ∀ record, P record → P (form.put other record)) :
    P (form.overlay given record) := by
  obtain ⟨distinct, -⟩ := once
  induction given generalizing record with
  | nil => cases member
  | cons first given ih =>
      obtain ⟨new, distinct⟩ := List.nodup_cons.mp distinct
      obtain rfl | member := List.mem_cons.mp member
      · apply overlay_of_kept P (brought record)
        intro other later
        refine kept other fun same => new ?_
        rw [← same]
        exact List.mem_map_of_mem later
      · exact ih (form.put first record) member distinct

/-- A notion of having a setting that agrees with a form: a setting that is put in place is
had, and settings of other names do not change that. -/
structure Shows (form : Form κ ρ) (Has : ρ → κ → Prop) : Prop where
  put : ∀ setting record, Has (form.put setting record) setting
  kept : ∀ {setting other record}, form.name other ≠ form.name setting → Has record setting →
    Has (form.put other record) setting

variable {Has : ρ → κ → Prop} {setting : κ} {record : ρ}

/-- A setting that is given is in place after all are put. -/
theorem Shows.has_given (shows : form.Shows Has) (once : form.Once given)
    (member : setting ∈ given) (record : ρ) : Has (form.overlay given record) setting := by
  apply overlay_of_mem (Has · setting) record once member (shows.put setting)
  exact fun other differs record => shows.kept differs

/-- A setting that is not given is as it was. -/
theorem Shows.has_kept (shows : form.Shows Has) (has : Has record setting)
    (differs : ∀ other ∈ given, form.name other ≠ form.name setting) :
    Has (form.overlay given record) setting := by
  apply overlay_of_kept (Has · setting) has
  exact fun other member record => shows.kept (differs other member)

end Json.Form

/-! ## The settings of each part -/

namespace AcceleratorSettings

/-- A setting of the accelerator, with its value. -/
inductive Setting where
  | libraryPath (text : Option String)
  | libraryEnv (text : String)
  | symbolPrefix (text : String)
deriving Repr, DecidableEq

namespace Setting

/-- The key of a setting. -/
def name : Setting → String
  | .libraryPath _ => "library_path"
  | .libraryEnv _ => "library_env"
  | .symbolPrefix _ => "symbol_prefix"

/-- The characters of a setting's value: a string, and `null` for no path. -/
inductive Value : Setting → List Char → Prop
  | noPath : Value (.libraryPath none) ['n', 'u', 'l', 'l']
  | libraryPath {text : String} {chars : List Char} (quotes : Quotes chars text.toList) :
      Value (.libraryPath (some text)) ('"' :: chars)
  | libraryEnv {text : String} {chars : List Char} (quotes : Quotes chars text.toList) :
      Value (.libraryEnv text) ('"' :: chars)
  | symbolPrefix {text : String} {chars : List Char} (quotes : Quotes chars text.toList) :
      Value (.symbolPrefix text) ('"' :: chars)

/-- Put a setting in place. -/
def put (setting : Setting) (settings : AcceleratorSettings) : AcceleratorSettings :=
  match setting with
  | .libraryPath text => { settings with libraryPath := text.map Path.ofText }
  | .libraryEnv text => { settings with libraryEnv := text }
  | .symbolPrefix text => { settings with symbolPrefix := text }

/-- The form of the accelerator's settings. -/
def form : Form Setting AcceleratorSettings :=
  ⟨name, fun _ => Value, fun _ => True, put⟩

/-- The fields of the accelerator section read its settings, each by the reader of its type. -/
theorem readBy_fields : form.ReadBy fields := by
  refine .of_scalars (fun _ => trivial) (fun _ _ value => value) ?_ ?_
  · intro setting
    cases setting with
    | libraryPath text =>
        refine ⟨_, rfl, ?_⟩
        intro chars value
        cases value with
        | noPath => exact (Reader.reads_nullable_null _).map _
        | libraryPath quotes =>
            exact ((Reader.reads_text quotes _).nullable rfl (by decide)).map _
    | libraryEnv text =>
        refine ⟨_, rfl, ?_⟩
        intro chars value
        cases value with
        | libraryEnv quotes => exact (Reader.reads_text quotes _).map _
    | symbolPrefix text =>
        refine ⟨_, rfl, ?_⟩
        intro chars value
        cases value with
        | symbolPrefix quotes => exact (Reader.reads_text quotes _).map _
  · intro name unknown
    have path := unknown (.libraryPath none)
    have env := unknown (.libraryEnv "")
    have symbol := unknown (.symbolPrefix "")
    simp_all [form, Setting.name, fields, Field.of]

end Setting

/-- The settings have a setting. -/
def Has (settings : AcceleratorSettings) : Setting → Prop
  | .libraryPath text => settings.libraryPath = text.map Path.ofText
  | .libraryEnv text => settings.libraryEnv = text
  | .symbolPrefix text => settings.symbolPrefix = text

/-- Putting an accelerator setting in place changes that one and no other. -/
theorem shows_has : Setting.form.Shows Has where
  put setting _ := by cases setting <;> rfl
  kept {setting other _} differs has := by
    cases other <;> cases setting <;> first | exact has | exact absurd rfl differs

end AcceleratorSettings

namespace LoggingSettings

/-- A setting of event output, with its value. -/
inductive Setting where
  | level (text : String)
  | ansi (flag : Bool)
deriving Repr, DecidableEq

namespace Setting

/-- The key of a setting. -/
def name : Setting → String
  | .level _ => "level"
  | .ansi _ => "ansi"

/-- The characters of a setting's value. -/
inductive Value : Setting → List Char → Prop
  | level {text : String} {chars : List Char} (quotes : Quotes chars text.toList) :
      Value (.level text) ('"' :: chars)
  | ansi : Value (.ansi true) ['t', 'r', 'u', 'e']
  | noAnsi : Value (.ansi false) ['f', 'a', 'l', 's', 'e']

/-- Put a setting in place. -/
def put (setting : Setting) (settings : LoggingSettings) : LoggingSettings :=
  match setting with
  | .level text => { settings with level := text }
  | .ansi flag => { settings with ansi := flag }

/-- The form of the settings of event output. -/
def form : Form Setting LoggingSettings :=
  ⟨name, fun _ => Value, fun _ => True, put⟩

/-- The fields of the logging section read its settings. -/
theorem readBy_fields : form.ReadBy fields := by
  refine .of_scalars (fun _ => trivial) (fun _ _ value => value) ?_ ?_
  · intro setting
    cases setting with
    | level text =>
        refine ⟨_, rfl, ?_⟩
        intro chars value
        cases value with
        | level quotes => exact (Reader.reads_text quotes _).map _
    | ansi flag =>
        refine ⟨_, rfl, ?_⟩
        intro chars value
        cases value with
        | ansi => exact Reader.reads_flag_yes.map _
        | noAnsi => exact Reader.reads_flag_no.map _
  · intro name unknown
    have level := unknown (.level "")
    have ansi := unknown (.ansi true)
    simp_all [form, Setting.name, fields, Field.of]

end Setting

/-- The settings have a setting. -/
def Has (settings : LoggingSettings) : Setting → Prop
  | .level text => settings.level = text
  | .ansi flag => settings.ansi = flag

/-- Putting a logging setting in place changes that one and no other. -/
theorem shows_has : Setting.form.Shows Has where
  put setting _ := by cases setting <;> rfl
  kept {setting other _} differs has := by
    cases other <;> cases setting <;> first | exact has | exact absurd rfl differs

end LoggingSettings

/-! ## The parts of a document -/

namespace Settings

/-- A part of a document, with the settings that it gives. -/
inductive Part where
  | accelerator (given : List AcceleratorSettings.Setting)
  | logging (given : List LoggingSettings.Setting)
deriving Repr, DecidableEq

namespace Part

/-- The key of a part. -/
def name : Part → String
  | .accelerator _ => "accelerator"
  | .logging _ => "logging"

/-- The characters of a part: an object of its settings. -/
inductive Value (Key : List Char → Prop) : Part → List Char → Prop
  | accelerator {given : List AcceleratorSettings.Setting} {chars : List Char}
      (listed : Listed AcceleratorSettings.Setting.form Key true given chars) :
      Value Key (.accelerator given) ('\x7b' :: chars)
  | logging {given : List LoggingSettings.Setting} {chars : List Char}
      (listed : Listed LoggingSettings.Setting.form Key true given chars) :
      Value Key (.logging given) ('\x7b' :: chars)

/-- No setting of a part is given twice. -/
def Sound : Part → Prop
  | .accelerator given => AcceleratorSettings.Setting.form.Once given
  | .logging given => LoggingSettings.Setting.form.Once given

/-- Put the settings of a part in place, the others of the part having their defaults. -/
def put (part : Part) (settings : Settings) : Settings :=
  match part with
  | .accelerator given =>
      { settings with accelerator := AcceleratorSettings.Setting.form.overlay given {} }
  | .logging given => { settings with logging := LoggingSettings.Setting.form.overlay given {} }

/-- The form of all settings. -/
def form : Form Part Settings :=
  ⟨name, Value, Sound, put⟩

/-- The fields of a document read its sections. A section is read over the defaults and not over
what was read before. -/
theorem readBy_fields : form.ReadBy fields where
  known part := by
    cases part with
    | accelerator given =>
        refine ⟨_, rfl, ?_, ?_⟩ <;> rintro chars ⟨listed⟩
        · have read := AcceleratorSettings.Setting.readBy_fields.record listed
            "AcceleratorConfig" {}
          exact ⟨fun sound => (read.1 sound).map _, fun unsound => (read.2 unsound).map _⟩
        · obtain legible | refused := AcceleratorSettings.Setting.readBy_fields.legible_or_refused
            listed "AcceleratorConfig" {}
          · exact .inl (.accelerator legible)
          · exact .inr (refused.map _)
    | logging given =>
        refine ⟨_, rfl, ?_, ?_⟩ <;> rintro chars (_ | ⟨listed⟩)
        · have read := LoggingSettings.Setting.readBy_fields.record listed "LoggingConfig" {}
          exact ⟨fun sound => (read.1 sound).map _, fun unsound => (read.2 unsound).map _⟩
        · obtain legible | refused := LoggingSettings.Setting.readBy_fields.legible_or_refused
            listed "LoggingConfig" {}
          · exact .inl (.logging legible)
          · exact .inr (refused.map _)
  unknown name unknown := by
    have accelerator := unknown (.accelerator [])
    have logging := unknown (.logging [])
    simp_all [form, Part.name, fields, Field.of]

end Part

/-- A setting of either part, with its value. -/
inductive Setting where
  | accelerator (setting : AcceleratorSettings.Setting)
  | logging (setting : LoggingSettings.Setting)
deriving Repr, DecidableEq

/-- The settings that a part gives. -/
def Part.settings : Part → List Setting
  | .accelerator given => given.map .accelerator
  | .logging given => given.map .logging

/-- The key of a setting's part and the key of the setting. -/
def Setting.keys : Setting → String × String
  | .accelerator setting => ("accelerator", setting.name)
  | .logging setting => ("logging", setting.name)

/-- The settings have a setting. -/
def Has (settings : Settings) : Setting → Prop
  | .accelerator setting => settings.accelerator.Has setting
  | .logging setting => settings.logging.Has setting

/-- The settings are the default ones with exactly the given ones in place. -/
structure Overlays (settings : Settings) (given : List Setting) : Prop where
  has_given : ∀ setting ∈ given, settings.Has setting
  has_default : ∀ setting, (∀ other ∈ given, other.keys ≠ setting.keys) →
    Has {} setting → settings.Has setting

/-- The parts of a document are laid over the default settings. -/
theorem overlays_overlay {document : List Part} (once : Part.form.Once document) :
    (Part.form.overlay document {}).Overlays (document.flatMap Part.settings) where
  has_given := by
    intro setting given
    obtain ⟨part, member, given⟩ := List.mem_flatMap.mp given
    have sound := once.2 part member
    -- The part puts the setting in place, and the other part does not touch it.
    cases part with
    | accelerator listed =>
        obtain ⟨setting, inside, rfl⟩ := List.mem_map.mp given
        apply Form.overlay_of_mem (fun settings : Settings => settings.accelerator.Has setting) {}
          once member
        · exact fun _ => AcceleratorSettings.shows_has.has_given sound inside {}
        · intro other differs settings has
          cases other with
          | accelerator _ => exact absurd rfl differs
          | logging _ => exact has
    | logging listed =>
        obtain ⟨setting, inside, rfl⟩ := List.mem_map.mp given
        apply Form.overlay_of_mem (fun settings : Settings => settings.logging.Has setting) {}
          once member
        · exact fun _ => LoggingSettings.shows_has.has_given sound inside {}
        · intro other differs settings has
          cases other with
          | accelerator _ => exact has
          | logging _ => exact absurd rfl differs
  has_default := by
    intro setting missing default
    apply Form.overlay_of_kept (fun settings : Settings => settings.Has setting) default
    intro part member settings has
    have apart : ∀ other ∈ part.settings, other.keys ≠ setting.keys :=
      fun other given => missing other (List.mem_flatMap.mpr ⟨part, member, given⟩)
    cases part with
    | accelerator listed =>
        cases setting with
        | accelerator setting =>
            apply AcceleratorSettings.shows_has.has_kept default
            intro other inside same
            exact apart _ (List.mem_map_of_mem inside) (congrArg (Prod.mk "accelerator") same)
        | logging setting => exact has
    | logging listed =>
        cases setting with
        | accelerator setting => exact has
        | logging setting =>
            apply LoggingSettings.shows_has.has_kept default
            intro other inside same
            exact apart _ (List.mem_map_of_mem inside) (congrArg (Prod.mk "logging") same)

/-- Two settings are alike where a setting stands. -/
def Setting.Alike (settings settings' : Settings) : Setting → Prop
  | .accelerator (.libraryPath _) =>
      settings.accelerator.libraryPath = settings'.accelerator.libraryPath
  | .accelerator (.libraryEnv _) =>
      settings.accelerator.libraryEnv = settings'.accelerator.libraryEnv
  | .accelerator (.symbolPrefix _) =>
      settings.accelerator.symbolPrefix = settings'.accelerator.symbolPrefix
  | .logging (.level _) => settings.logging.level = settings'.logging.level
  | .logging (.ansi _) => settings.logging.ansi = settings'.logging.ansi

/-- Settings that share one are alike in the one of the same keys. -/
theorem Has.alike {settings settings' : Settings} {shared setting : Setting}
    (has : settings.Has shared) (has' : settings'.Has shared)
    (same : shared.keys = setting.keys) : setting.Alike settings settings' := by
  rcases shared with (_ | _ | _) | (_ | _) <;> rcases setting with (_ | _ | _) | (_ | _) <;>
    first
    | exact Eq.trans has (Eq.symm has')
    | simp [Setting.keys, AcceleratorSettings.Setting.name, LoggingSettings.Setting.name] at same

/-- Where the same settings are given, the results are alike: both have the given one, or
else both have the default. -/
theorem Overlays.alike {settings settings' : Settings} {given given' : List Setting}
    (overlays : settings.Overlays given) (overlays' : settings'.Overlays given')
    (same : ∀ setting, setting ∈ given ↔ setting ∈ given') {setting : Setting}
    (default : Has {} setting) : setting.Alike settings settings' := by
  by_cases present : ∃ other ∈ given, other.keys = setting.keys
  · obtain ⟨other, member, sameKeys⟩ := present
    have has := overlays.has_given other member
    have has' := overlays'.has_given other ((same other).mp member)
    exact has.alike has' sameKeys
  · push Not at present
    have has := overlays.has_default setting present default
    have has' : settings'.Has setting := by
      apply overlays'.has_default setting _ default
      intro other member
      exact present other ((same other).mpr member)
    exact has.alike has' rfl

/-- The given settings alone determine the result. -/
theorem Overlays.eq {settings settings' : Settings} {given given' : List Setting}
    (overlays : settings.Overlays given) (overlays' : settings'.Overlays given')
    (same : ∀ setting, setting ∈ given ↔ setting ∈ given') : settings = settings' := by
  have alike {setting : Setting} : Has {} setting → setting.Alike settings settings' :=
    overlays.alike overlays' same
  have path : Setting.Alike _ _ (.accelerator (.libraryPath none)) := alike rfl
  have env : Setting.Alike _ _ (.accelerator (.libraryEnv _)) := alike rfl
  have symbol : Setting.Alike _ _ (.accelerator (.symbolPrefix _)) := alike rfl
  have level : Setting.Alike _ _ (.logging (.level _)) := alike rfl
  have ansi : Setting.Alike _ _ (.logging (.ansi _)) := alike rfl
  obtain ⟨⟨_, _, _⟩, ⟨_, _⟩⟩ := settings
  obtain ⟨⟨_, _, _⟩, ⟨_, _⟩⟩ := settings'
  cases path
  cases env
  cases symbol
  cases level
  cases ansi
  rfl

/-- The text is an object of the parts of a document, among blanks. In it and in its parts,
the keys of other members are from among the given strings. -/
def Spelled (Key : List Char → Prop) (document : List Part) (text : String) : Prop :=
  ∃ before listed after, Blank before ∧ Blank after ∧ Listed Part.form Key true document listed ∧
    text.toList = before ++ '\x7b' :: listed ++ after

/-- A text is refused if its object is. -/
theorem parse_refused {Kind : Fault → Prop} {before listed after : List Char} {text : String}
    (refuses : reader.Refuses Kind ('\x7b' :: listed)) (blank : Blank before)
    (same : text.toList = before ++ '\x7b' :: listed ++ after) :
    ∃ fault, parse text = .error fault ∧ Kind fault := by
  obtain ⟨fault, refused, kind⟩ := refuses after blank
  have whole : text.toList = before ++ ('\x7b' :: listed ++ after) := by simp [same]
  refine ⟨fault, ?_, kind⟩
  unfold Settings.parse readDocument
  rw [whole, refused]

/-- What becomes of a document whose keys all spell texts. -/
theorem Spelled.parse {document : List Part} {text : String}
    (spelled : Spelled Legible document text) :
    (Part.form.Once document → Settings.parse text = .ok (Part.form.overlay document {})) ∧
    (¬ Part.form.Once document → ∃ fault, Settings.parse text = .error fault ∧ fault.Repeats) := by
  obtain ⟨before, listed, after, blankBefore, blankAfter, members, spelled⟩ := spelled
  obtain ⟨reads, refuses⟩ := Part.readBy_fields.record members "KernelConfig" {}
  have ended : skipSpace after = [] := List.dropWhile_eq_nil_iff.mpr blankAfter
  have same : text.toList = before ++ ('\x7b' :: listed ++ after) := by simp [spelled]
  constructor
  · intro once
    have read : reader.run _ = _ := reads once after blankBefore
    unfold Settings.parse readDocument
    rw [same, read]
    simp only [ended]
  · intro twice
    exact parse_refused (refuses twice) blankBefore spelled

/-- A document with a key that spells no text is not read. -/
theorem Spelled.legible_or_refused {document : List Part} {text : String}
    (spelled : Spelled Quoted document text) :
    Spelled Legible document text ∨ ∃ fault, Settings.parse text = .error fault := by
  obtain ⟨before, listed, after, blankBefore, blankAfter, members, same⟩ := spelled
  rcases Part.readBy_fields.legible_or_refused members "KernelConfig" {} with legible | refuses
  · exact .inl ⟨before, listed, after, blankBefore, blankAfter, legible, same⟩
  · obtain ⟨fault, refused, _⟩ := parse_refused refuses blankBefore same
    exact .inr ⟨fault, refused⟩

/-- **Documents are laid over the default settings.** Take a document whose other members have
any strings as keys. If every key of the document and of its parts spells a text, and nothing
is given twice, it is read, whatever it gives in whatever order and whatever other members it
has, as the default settings with exactly the given ones in place, and any other such document
that gives the same settings is read as the same. If a part, or a setting of a part, is given
twice, the document is refused, and for that if all keys spell texts. If some key spells no
text, it is refused as well. -/
theorem parse_overlays {document : List Part} {text : String}
    (spelled : Spelled Quoted document text) :
    (Spelled Legible document text → Part.form.Once document →
      ∃ settings, parse text = .ok settings ∧
        settings.Overlays (document.flatMap Part.settings) ∧
        ∀ document' text', Spelled Legible document' text' → Part.form.Once document' →
          (∀ setting, setting ∈ document.flatMap Part.settings ↔
            setting ∈ document'.flatMap Part.settings) →
          parse text' = .ok settings) ∧
    (¬ Part.form.Once document → ∃ fault, parse text = .error fault ∧
      (Spelled Legible document text → ∃ name, fault.cause = .duplicateField name)) ∧
    (¬ Spelled Legible document text → ∃ fault, parse text = .error fault) := by
  refine ⟨?_, ?_, spelled.legible_or_refused.resolve_left⟩
  · intro legible once
    have overlays := overlays_overlay once
    refine ⟨_, legible.parse.1 once, overlays, ?_⟩
    intro document' text' spelled' once' same
    rw [overlays.eq (overlays_overlay once') same]
    exact spelled'.parse.1 once'
  · intro twice
    by_cases legible : Spelled Legible document text
    · obtain ⟨fault, refused, repeats⟩ := legible.parse.2 twice
      exact ⟨fault, refused, fun _ => repeats⟩
    · obtain ⟨fault, refused⟩ := spelled.legible_or_refused.resolve_left legible
      exact ⟨fault, refused, fun spelled => absurd spelled legible⟩

/-- Half a surrogate pair, as a string. -/
theorem surrogate_quoted : Quoted ('\\' :: 'u' :: ['D', '8', '0', '0'] ++ ['"']) :=
  .unit (.digits (.upper 13 (by decide)) (.lower 8 (by decide)) (.lower 0 (by decide))
    (.lower 0 (by decide))) .close

/-- A text that gives one setting of one part, by an escaped key, and none of the other. The
members around it are passed over: a value of some depth, a string that spells nothing, and a
key that is known in the other part only. -/
def sparse : String :=
  "\n\x7b \"extra\":[-1.50e+3,\x7b\"\\uD800\":null\x7d],\"logging\" :" ++
    "\x7b\"le\\u0076el\":\"warn\"\x7d, \"accelerator\":\x7b\"level\":0\x7d \x7d"

/-- The text is a document of two sections, whatever other keys are admitted, as long as they
may spell texts. -/
theorem sparse_spelled {Key : List Char → Prop} (legible : ∀ {key}, Legible key → Key key) :
    Spelled Key [.logging [.level "warn"], .accelerator []] sparse := by
  have comma : Separator false [','] := .later blank_nil blank_nil
  have colon : Colon [':'] := .colon blank_nil blank_nil
  have numeral : IsNumeral (['-'] ++ ['1'] ++ ['.', '5', '0'] ++ ('e' :: ['+'] ++ ['3'])) :=
    .parts (.inr rfl) (.digits ⟨by decide, rfl⟩ (by decide))
      (.present ⟨by decide, rfl⟩)
      (.present (.inl rfl) (.inr (.inl rfl)) ⟨by decide, rfl⟩)
  have object : Written .value _ :=
    .object (.member (.first blank_nil) surrogate_quoted colon .null (.close blank_nil))
  have extra : Written .value _ :=
    .list (.element (.first blank_nil) (.numeral numeral)
      (.element comma object (.close blank_nil)))
  have level : Quotes ('l' :: 'e' :: ('\\' :: 'u' :: ['0', '0', '7', '6'] ++ ['e', 'l', '"']))
      "level".toList :=
    .plain (by decide) (.plain (by decide) (.unit (.digits (.lower 0 (by decide))
      (.lower 0 (by decide)) (.lower 7 (by decide)) (.lower 6 (by decide))) (by decide)
      (.plain (by decide) (.plain (by decide) .close))))
  have logging : Listed LoggingSettings.Setting.form Key true [.level "warn"] _ :=
    .setting (.first blank_nil) level colon (.level (quotes_writeChar _)) (.close blank_nil)
  have unknown : ∀ setting : AcceleratorSettings.Setting,
      ¬ Quotes ("level".toList.flatMap writeChar ++ ['"']) setting.name.toList := by
    intro setting
    apply (quotes_writeChar _).spells_no_other
    cases setting <;> simp [AcceleratorSettings.Setting.name]
  have accelerator : Listed AcceleratorSettings.Setting.form Key true [] _ :=
    .other (.first blank_nil) (legible ⟨_, quotes_writeChar _⟩) unknown colon
      (.numeral (.parts (.inl rfl) .zero .absent .absent)) (.close blank_nil)
  have unknownPart : ∀ part : Part,
      ¬ Quotes ("extra".toList.flatMap writeChar ++ ['"']) part.name.toList := by
    intro part
    apply (quotes_writeChar _).spells_no_other
    cases part <;> simp [Part.name]
  exact ⟨_, _, [], blank_breakLine 0, blank_nil,
    .other (.first blank_space) (legible ⟨_, quotes_writeChar _⟩) unknownPart colon extra
      (.setting comma (quotes_writeChar _) (.colon blank_space blank_nil) (.logging logging)
        (.setting (.later blank_nil blank_space) (quotes_writeChar _) colon
          (.accelerator accelerator) (.close blank_space))), rfl⟩

/-- A text that gives a setting twice. -/
def repeated : String :=
  "\x7b\"logging\":\x7b\"ansi\":true,\"ansi\":false\x7d\x7d"

/-- The text is a document of one section, in which a setting is given twice. -/
theorem repeated_spelled {Key : List Char → Prop} :
    Spelled Key [.logging [.ansi true, .ansi false]] repeated := by
  have colon : Colon [':'] := .colon blank_nil blank_nil
  have logging : Listed LoggingSettings.Setting.form Key true [.ansi true, .ansi false] _ :=
    .setting (.first blank_nil) (quotes_writeChar _) colon .ansi
      (.setting (.later blank_nil blank_nil) (quotes_writeChar _) colon .noAnsi
        (.close blank_nil))
  exact ⟨[], _, [], blank_nil, blank_nil,
    .setting (.first blank_nil) (quotes_writeChar _) colon (.logging logging)
      (.close blank_nil), rfl⟩

/-- A text that gives nothing, with a key that spells nothing. -/
def lone : String := "\x7b\"\\uD800\":null\x7d"

/-- Half a surrogate pair spells no text. -/
theorem surrogate_not_legible :
    ¬ Legible ('\\' :: 'u' :: ['D', '8', '0', '0'] ++ ['"']) := by
  rintro ⟨text, quotes⟩
  have unread : (readText ('\\' :: 'u' :: ['D', '8', '0', '0'] ++ ['"'] ++ [])).isOk = false := by
    decide +kernel
  rw [quotes.readText []] at unread
  cases unread

/-- The text is a document that gives nothing. -/
theorem lone_spelled : Spelled Quoted [] lone := by
  have unknown : ∀ part : Part,
      ¬ Quotes ('\\' :: 'u' :: ['D', '8', '0', '0'] ++ ['"']) part.name.toList :=
    fun _ quotes => surrogate_not_legible ⟨_, quotes⟩
  exact ⟨[], _, [], blank_nil, blank_nil,
    .other (.first blank_nil) surrogate_quoted unknown (.colon blank_nil blank_nil) .null
      (.close blank_nil), rfl⟩

theorem lone_unread : (parse lone).isOk = false := by
  decide +kernel

/-- The sparse text sets one setting, the one that repeats a setting is refused, and so is the
one whose key spells nothing. -/
theorem sparse_overlays :
    (∃ settings, parse sparse = .ok settings ∧ settings.Overlays [.logging (.level "warn")]) ∧
    (∃ fault name, parse repeated = .error fault ∧ fault.cause = .duplicateField name) ∧
    (¬ Spelled Legible [] lone ∧ ∃ fault, parse lone = .error fault) := by
  have once : Part.form.Once [.logging [.level "warn"], .accelerator []] := by
    simp [Form.Once, Part.form, Part.name, Part.Sound, LoggingSettings.Setting.form]
  have twice : ¬ Part.form.Once [.logging [.ansi true, .ansi false]] := by
    simp [Form.Once, Part.form, Part.Sound, LoggingSettings.Setting.form,
      LoggingSettings.Setting.name]
  obtain ⟨settings, read, overlays, -⟩ :=
    (parse_overlays (sparse_spelled Legible.quoted)).1 (sparse_spelled id) once
  obtain ⟨fault, refused, repeats⟩ := (parse_overlays repeated_spelled).2.1 twice
  obtain ⟨name, cause⟩ := repeats repeated_spelled
  have illegible : ¬ Spelled Legible [] lone := by
    intro legible
    have unread := lone_unread
    rw [legible.parse.1 (by simp [Form.Once])] at unread
    cases unread
  exact ⟨⟨settings, read, overlays⟩, ⟨fault, name, refused, cause⟩, illegible,
    (parse_overlays lone_spelled).2.2 illegible⟩

/-- It is not so that a document which gives nothing twice is always read: the key of a member
that nobody asks for has to spell a text all the same. -/
theorem lone_surrogate_refused :
    ¬ ∀ (document : List Part) (text : String), Spelled Quoted document text →
      Part.form.Once document → ∃ settings, parse text = .ok settings := by
  intro reads
  obtain ⟨settings, read⟩ := reads [] lone lone_spelled (by simp [Form.Once])
  have unread := lone_unread
  rw [read] at unread
  cases unread

end Settings

end TypedMemory
