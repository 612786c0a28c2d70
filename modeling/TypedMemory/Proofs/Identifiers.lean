import Mathlib.Data.List.Forall2
import Mathlib.Data.List.TakeWhile
import TypedMemory.Backend
import TypedMemory.ElementType

/-!
# Which texts are identifiers

A text bears a name if it is that name, each letter of ASCII in either case, with blanks
before and behind it. An element type is read from exactly the texts that bear its name,
and a backend from exactly those that bear one of its spellings; every other text is
refused with an error that quotes it as it stands (`identifiers_read_exactly`). Blanks
and cases do not get in each other's way, because no letter of ASCII is a blank.
-/

namespace TypedMemory

namespace Text

/-- All characters of a text are blanks. -/
def Blanks (text : String) : Prop := ∀ char ∈ text.toList, isBlank char = true

instance (text : String) : Decidable (Blanks text) := List.decidableBAll _ _

/-- A capital letter of ASCII, and the small letter that belongs to it. -/
def IsCapitalOf (capital small : Char) : Prop :=
  'A'.toNat ≤ capital.toNat ∧ capital.toNat ≤ 'Z'.toNat ∧
    small.toNat = capital.toNat + ('a'.toNat - 'A'.toNat)

/-- Two characters are the same, or one letter of ASCII in both cases. -/
def SameLetter (left right : Char) : Prop :=
  left = right ∨ IsCapitalOf left right ∨ IsCapitalOf right left

/-- Two texts differ at most in the case of letters of ASCII. -/
def Recased (left right : String) : Prop :=
  List.Forall₂ SameLetter left.toList right.toList

/-- A text is a name in any case, with any blanks around it. -/
def Bears (text name : String) : Prop :=
  ∃ front middle back, text = front ++ middle ++ back ∧ Blanks front ∧ Blanks back ∧
    Recased middle name

section Letters

variable {char left right : Char}

/-- The letters that bound the two cases, as code points. -/
theorem toNat_bounds : 'A'.toNat = 65 ∧ 'Z'.toNat = 90 ∧ 'a'.toNat = 97 := by decide

/-- Lowering a letter adds 32 to the code of a capital and changes no other character. -/
theorem toNat_toLower (char : Char) :
    char.toLower.toNat =
      if 65 ≤ char.toNat ∧ char.toNat ≤ 90 then char.toNat + 32 else char.toNat := by
  have capital : (char.val ≥ 'A'.val ∧ char.val ≤ 'Z'.val) ↔
      (65 ≤ char.toNat ∧ char.toNat ≤ 90) :=
    Iff.rfl
  unfold Char.toLower
  split
  · next upper =>
      rw [if_pos (capital.mp upper)]
      change (char.val + 32).toNat = char.toNat + 32
      rw [UInt32.toNat_add]
      exact Nat.mod_eq_of_lt (Nat.lt_of_le_of_lt
        (Nat.add_le_add_right (capital.mp upper).2 32) (by decide))
  · next other => rw [if_neg (mt capital.mpr other)]

/-- Letters are the same but for case exactly if they are the same when lowered. -/
theorem sameLetter_iff : SameLetter left right ↔ left.toLower = right.toLower := by
  have lowered := toNat_toLower left
  have lowered' := toNat_toLower right
  have bounds := toNat_bounds
  unfold SameLetter IsCapitalOf
  rw [← Char.toNat_inj, ← Char.toNat_inj, lowered, lowered']
  split <;> split <;> omega

/-- Letters of ASCII are no blanks. -/
theorem isBlank_of_letter (above : 65 ≤ char.toNat) (below : char.toNat ≤ 122) :
    isBlank char = false := by
  unfold isBlank blankRanges
  simp only [List.any_cons, List.any_nil, Bool.or_false, Bool.or_eq_false_iff,
    Bool.and_eq_false_iff, decide_eq_false_iff_not]
  omega

/-- Case has no part in being blank. -/
theorem SameLetter.isBlank (same : SameLetter left right) :
    Text.isBlank left = Text.isBlank right := by
  have bounds := toNat_bounds
  rcases same with rfl | capital | capital
  · rfl
  all_goals
    unfold IsCapitalOf at capital
    rw [isBlank_of_letter (by omega) (by omega), isBlank_of_letter (by omega) (by omega)]

end Letters

/-- Texts are the same but for case exactly if they are the same when lowered. -/
theorem recased_iff {left right : String} :
    Recased left right ↔ left.toList.map Char.toLower = right.toList.map Char.toLower := by
  have lowered : SameLetter = fun left right => left.toLower = right.toLower :=
    funext₂ fun _ _ => propext sameLetter_iff
  unfold Recased
  rw [lowered, ← List.forall₂_map_right_iff, ← List.forall₂_map_left_iff,
    List.forall₂_eq_eq_eq]

section Trimming

variable {chars front middle back : List Char}

/-- Only blanks are cut off, from either end. -/
theorem trimBlanks_split (chars : List Char) :
    ∃ front back, chars = front ++ trimBlanks chars ++ back ∧
      (∀ char ∈ front, isBlank char = true) ∧ ∀ char ∈ back, isBlank char = true := by
  let rest := chars.dropWhile isBlank
  refine ⟨chars.takeWhile isBlank, (rest.reverse.takeWhile isBlank).reverse, ?_, ?_, ?_⟩
  · have trimmed : trimBlanks chars ++ (rest.reverse.takeWhile isBlank).reverse = rest := by
      unfold trimBlanks
      rw [← List.reverse_append, List.takeWhile_append_dropWhile, List.reverse_reverse]
    rw [List.append_assoc, trimmed, List.takeWhile_append_dropWhile]
  · intro char member
    exact List.mem_takeWhile_imp member
  · intro char member
    exact List.mem_takeWhile_imp (List.mem_reverse.mp member)

/-- Nothing is trimmed from characters that are not blank. -/
theorem dropWhile_of_solid (solid : ∀ char ∈ chars, isBlank char = false) :
    chars.dropWhile isBlank = chars := by
  cases chars with
  | nil => rfl
  | cons char rest =>
      apply List.dropWhile_cons_of_neg
      rw [solid char List.mem_cons_self]
      exact Bool.false_ne_true

/-- All blanks around a word are cut off. -/
theorem trimBlanks_padded (before : ∀ char ∈ front, isBlank char = true)
    (behind : ∀ char ∈ back, isBlank char = true)
    (solid : ∀ char ∈ middle, isBlank char = false) :
    trimBlanks (front ++ middle ++ back) = middle := by
  have headed : (middle ++ back).reverse.dropWhile isBlank = middle.reverse := by
    rw [List.reverse_append, List.dropWhile_append_of_pos]
    · apply dropWhile_of_solid
      intro char member
      exact solid char (List.mem_reverse.mp member)
    · intro char member
      exact behind char (List.mem_reverse.mp member)
  unfold trimBlanks
  rw [List.append_assoc, List.dropWhile_append_of_pos before, List.dropWhile_append,
    dropWhile_of_solid solid]
  -- Without a word in the middle, the blanks behind it go with those before it.
  split
  · next none =>
      rw [List.isEmpty_iff.mp none, List.dropWhile_eq_nil_iff.mpr behind]
      rfl
  · rw [headed, List.reverse_reverse]

end Trimming

/-- A name in the form under which identifiers are compared: without blanks, and without
capital letters. -/
def Plain (name : String) : Prop :=
  ∀ char ∈ name.toList, isBlank char = false ∧ char.toLower = char

instance (name : String) : Decidable (Plain name) := List.decidableBAll _ _

section Bearing

variable {text middle name : String}

/-- A plain name is lowered already. -/
theorem Plain.map_toLower (plain : Plain name) :
    name.toList.map Char.toLower = name.toList :=
  (List.map_congr_left fun char member => (plain char member).2).trans (List.map_id _)

/-- Another case puts no blanks into a name. -/
theorem solid_of_sameLetters {left right : List Char} (same : List.Forall₂ SameLetter left right)
    (solid : ∀ char ∈ right, isBlank char = false) : ∀ char ∈ left, isBlank char = false := by
  induction same with
  | nil => exact solid
  | cons same _ ih =>
      intro char member
      rcases List.mem_cons.mp member with rfl | later
      · rw [same.isBlank]
        exact solid _ List.mem_cons_self
      · exact ih (fun other there => solid other (List.mem_cons_of_mem _ there)) char later

/-- What is compared with a name is the name itself exactly for the texts that bear it. -/
theorem Plain.identifier_eq_iff (plain : Plain name) :
    identifier text = name ↔ Bears text name := by
  unfold identifier
  rw [← String.toList_inj, String.toList_ofList]
  constructor
  · intro same
    obtain ⟨front, back, split, before, behind⟩ := trimBlanks_split text.toList
    refine ⟨.ofList front, .ofList (trimBlanks text.toList), .ofList back, ?_, ?_, ?_, ?_⟩
    · rw [← String.toList_inj, String.toList_append, String.toList_append, String.toList_ofList,
        String.toList_ofList, String.toList_ofList]
      exact split
    · unfold Blanks
      rwa [String.toList_ofList]
    · unfold Blanks
      rwa [String.toList_ofList]
    · rw [recased_iff, String.toList_ofList, same, plain.map_toLower]
  · rintro ⟨front, middle, back, rfl, before, behind, recased⟩
    have solid := solid_of_sameLetters recased fun char member => (plain char member).1
    rw [String.toList_append, String.toList_append, trimBlanks_padded before behind solid,
      recased_iff.mp recased, plain.map_toLower]

end Bearing

end Text

section Answers

variable {α : Type} {found : Option α} {value : α} {refusal error : Error}

/-- What is found is the answer. -/
theorem elim_ok_iff : found.elim (.error refusal) Except.ok = .ok value ↔ found = some value := by
  cases found with
  | none => exact ⟨nofun, nofun⟩
  | some other =>
      rw [Option.elim_some, Except.ok.injEq, Option.some.injEq]

/-- Only if nothing is found, there is a refusal. -/
theorem elim_error_iff :
    found.elim (.error refusal) Except.ok = .error error ↔
      (∀ value, found ≠ some value) ∧ error = refusal := by
  cases found with
  | none => exact ⟨fun same => ⟨nofun, (Except.error.inj same).symm⟩, fun both => both.2 ▸ rfl⟩
  | some other => exact ⟨nofun, fun both => (both.1 other rfl).elim⟩

end Answers

namespace ElementType

variable {text : String} {type : ElementType}

/-- Every type is among all types. -/
theorem mem_all (type : ElementType) : type ∈ all := by
  cases type <;> decide

/-- Names of types are plain. -/
theorem plain_name (type : ElementType) : Text.Plain type.name := by
  cases type <;> decide

/-- Types have names of their own. -/
theorem name_inj {left right : ElementType} (same : left.name = right.name) : left = right := by
  have apart : ∀ left ∈ all, ∀ right ∈ all, left.name = right.name → left = right := by decide
  exact apart left (mem_all left) right (mem_all right) same

/-- An identifier is that of a type exactly if it is the type's name. -/
theorem ofIdentifier?_eq_some_iff {identifier : String} :
    ofIdentifier? identifier = some type ↔ identifier = type.name := by
  unfold ofIdentifier?
  constructor
  · intro found
    have named := List.find?_some found
    exact (beq_iff_eq.mp named).symm
  · rintro rfl
    cases found : all.find? fun other => other.name == type.name with
    | none =>
        have missed := List.find?_eq_none.mp found type (mem_all type)
        exact (missed (beq_self_eq_true _)).elim
    | some other =>
        have named := List.find?_some found
        rw [name_inj (beq_iff_eq.mp named)]

/-- A text identifies a type exactly if it bears the type's name, with whatever blanks around it
and in whatever case. -/
theorem ofIdentifier?_iff_bears :
    ofIdentifier? (Text.identifier text) = some type ↔ Text.Bears text type.name :=
  ofIdentifier?_eq_some_iff.trans type.plain_name.identifier_eq_iff

/-- A text that identifies no type is quoted in the error as it came. -/
theorem parse_eq (text : String) :
    parse text = (ofIdentifier? (Text.identifier text)).elim
      (.error (.configuration ("unknown element type '" ++ text ++ "'"))) .ok := by
  unfold parse
  cases ofIdentifier? (Text.identifier text) <;> rfl

/-- An element type is read from the texts that bear its name. -/
theorem parse_ok_iff : parse text = .ok type ↔ Text.Bears text type.name := by
  rw [parse_eq, elim_ok_iff, ofIdentifier?_iff_bears]

/-- A text is refused exactly if it bears the name of no type. -/
theorem parse_error_iff {error : Error} :
    parse text = .error error ↔
      (∀ type : ElementType, ¬ Text.Bears text type.name) ∧
        error = .configuration ("unknown element type '" ++ text ++ "'") := by
  simp only [parse_eq, elim_error_iff, ne_eq, ofIdentifier?_iff_bears]

end ElementType

namespace Backend

variable {text : String} {backend : Backend}

/-- The names under which a backend is known. -/
def spellings : Backend → List String
  | host => ["host", "cpu"]
  | accelerator => ["accelerator", "cuda", "gpu"]

/-- All spellings of backends are plain. -/
theorem plain_spelling {name : String} (known : name ∈ backend.spellings) : Text.Plain name := by
  have plain : ∀ backend ∈ all, ∀ name ∈ backend.spellings, Text.Plain name := by decide
  exact plain backend (by cases backend <;> decide) name known

theorem name_mem_spellings (backend : Backend) : backend.name ∈ backend.spellings := by
  cases backend <;> decide

/-- An identifier is that of a backend exactly if it is one of the backend's spellings. -/
theorem ofIdentifier?_eq_some_iff {identifier : String} :
    ofIdentifier? identifier = some backend ↔ identifier ∈ backend.spellings := by
  have apart : ∀ name ∈ host.spellings, name ∉ accelerator.spellings := by decide
  change (if identifier ∈ host.spellings then some host
    else if identifier ∈ accelerator.spellings then some accelerator else none) = _ ↔ _
  by_cases first : identifier ∈ host.spellings
  · rw [if_pos first]
    cases backend with
    | host => exact ⟨fun _ => first, fun _ => rfl⟩
    | accelerator => exact ⟨nofun, fun second => (apart _ first second).elim⟩
  · rw [if_neg first]
    by_cases second : identifier ∈ accelerator.spellings
    · rw [if_pos second]
      cases backend with
      | host => exact ⟨nofun, fun other => (first other).elim⟩
      | accelerator => exact ⟨fun _ => second, fun _ => rfl⟩
    · rw [if_neg second]
      cases backend with
      | host => exact ⟨nofun, fun other => (first other).elim⟩
      | accelerator => exact ⟨nofun, fun other => (second other).elim⟩

/-- A text identifies a backend exactly if it bears one of its spellings. -/
theorem ofIdentifier?_iff_bears :
    ofIdentifier? (Text.identifier text) = some backend ↔
      ∃ name ∈ backend.spellings, Text.Bears text name := by
  rw [ofIdentifier?_eq_some_iff]
  constructor
  · intro known
    exact ⟨_, known, (plain_spelling known).identifier_eq_iff.mp rfl⟩
  · rintro ⟨name, known, bears⟩
    rw [(plain_spelling known).identifier_eq_iff.mpr bears]
    exact known

/-- A text that identifies no backend is quoted in the error as it came. -/
theorem parse_eq (text : String) :
    parse text = (ofIdentifier? (Text.identifier text)).elim
      (.error (.configuration ("unknown backend identifier '" ++ text ++ "'"))) .ok := by
  unfold parse
  cases ofIdentifier? (Text.identifier text) <;> rfl

/-- A backend is read from the texts that bear one of its names. -/
theorem parse_ok_iff :
    parse text = .ok backend ↔ ∃ name ∈ backend.spellings, Text.Bears text name := by
  rw [parse_eq, elim_ok_iff, ofIdentifier?_iff_bears]

/-- A text is refused exactly if it bears no spelling of any backend. -/
theorem parse_error_iff {error : Error} :
    parse text = .error error ↔
      (∀ backend : Backend, ¬ ∃ name ∈ backend.spellings, Text.Bears text name) ∧
        error = .configuration ("unknown backend identifier '" ++ text ++ "'") := by
  simp only [parse_eq, elim_error_iff, ne_eq, ofIdentifier?_iff_bears]

/-- No element type has the name of a backend. -/
theorem name_not_mem_spellings (type : ElementType) (backend : Backend) :
    type.name ∉ backend.spellings := by
  cases type <;> cases backend <;> decide

end Backend

/-- **Identifiers are read exactly.** An element type is read from a text if and only if the
text is its name, in any case of the letters of ASCII, between blanks; a backend, if and
only if the text is one of its spellings in the same way. All other texts are refused, and
quoted as they stand. So the name of every value is read back from any padding and any case
of it, and no text is read both as an element type and as a backend. -/
theorem identifiers_read_exactly :
    (∀ text type, ElementType.parse text = .ok type ↔ Text.Bears text type.name) ∧
    (∀ text, Backend.parse text = .ok .host ↔ Text.Bears text "host" ∨ Text.Bears text "cpu") ∧
    (∀ text, Backend.parse text = .ok .accelerator ↔
      Text.Bears text "accelerator" ∨ Text.Bears text "cuda" ∨ Text.Bears text "gpu") ∧
    (∀ text error, ElementType.parse text = .error error ↔
      (∀ type : ElementType, ¬ Text.Bears text type.name) ∧
        error = .configuration ("unknown element type '" ++ text ++ "'")) ∧
    (∀ text error, Backend.parse text = .error error ↔
      (∀ backend : Backend, ¬ ∃ name ∈ backend.spellings, Text.Bears text name) ∧
        error = .configuration ("unknown backend identifier '" ++ text ++ "'")) ∧
    (∀ front middle back, Text.Blanks front → Text.Blanks back →
      (∀ type : ElementType, Text.Recased middle type.name →
        ElementType.parse (front ++ middle ++ back) = .ok type) ∧
      ∀ backend : Backend, Text.Recased middle backend.name →
        Backend.parse (front ++ middle ++ back) = .ok backend) ∧
    ∀ text type backend,
      ElementType.parse text = .ok type → Backend.parse text ≠ .ok backend := by
  refine ⟨fun _ _ => ElementType.parse_ok_iff, ?_, ?_, fun _ _ => ElementType.parse_error_iff,
    fun _ _ => Backend.parse_error_iff, ?_, ?_⟩
  · intro text
    simpa [Backend.spellings] using @Backend.parse_ok_iff text .host
  · intro text
    simpa [Backend.spellings] using @Backend.parse_ok_iff text .accelerator
  · intro front middle back before behind
    have bears (name : String) (recased : Text.Recased middle name) :
        Text.Bears (front ++ middle ++ back) name :=
      ⟨front, middle, back, rfl, before, behind, recased⟩
    constructor
    · intro type recased
      exact ElementType.parse_ok_iff.mpr (bears _ recased)
    · intro backend recased
      exact Backend.parse_ok_iff.mpr ⟨_, backend.name_mem_spellings, bears _ recased⟩
  · intro text type backend typed placed
    have named := type.plain_name.identifier_eq_iff.mpr (ElementType.parse_ok_iff.mp typed)
    obtain ⟨name, known, bears⟩ := Backend.parse_ok_iff.mp placed
    have spelled := (Backend.plain_spelling known).identifier_eq_iff.mpr bears
    rw [← spelled, named] at known
    exact Backend.name_not_mem_spellings type backend known

/-- A name with wide blanks, a tabulator and control characters around it is read, while a
long s is no other case of an s. -/
theorem padded_identifier_read :
    Text.Blanks "\u3000\t" ∧ Text.Blanks "\u0085\n" ∧
    Text.Recased "FLOat32" ElementType.float32.name ∧
    ElementType.parse ("\u3000\t" ++ "FLOat32" ++ "\u0085\n") = .ok .float32 ∧
    (∀ backend : Backend, ¬ ∃ name ∈ backend.spellings, Text.Bears " Ho\u017Ft" name) ∧
    Backend.parse " Ho\u017Ft" =
      .error (.configuration "unknown backend identifier ' Ho\u017Ft'") := by
  obtain ⟨_, _, _, _, refuses, reads, _⟩ := identifiers_read_exactly
  have before : Text.Blanks "\u3000\t" := by decide
  have behind : Text.Blanks "\u0085\n" := by decide
  have recased : Text.Recased "FLOat32" ElementType.float32.name :=
    Text.recased_iff.mpr (by decide)
  have refused : Backend.parse " Ho\u017Ft" =
      .error (.configuration "unknown backend identifier ' Ho\u017Ft'") := by
    decide +kernel
  exact ⟨before, behind, recased, (reads _ _ _ before behind).1 .float32 recased,
    ((refuses _ _).mp refused).1, refused⟩

end TypedMemory
