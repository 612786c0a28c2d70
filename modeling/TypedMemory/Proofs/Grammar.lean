import Mathlib.Tactic.IntervalCases
import TypedMemory.Json.Skip
import TypedMemory.Proofs.Spelling

/-!
# The grammar of documents

Which characters spell a value of a document, without regard to how they are read. Blanks
may stand between any two tokens. A string may spell each of its characters in several ways:
as itself, by a letter, by its code unit or by a surrogate pair (`Json.Quotes`). A string
that is passed over need not spell anything, so code units may stand in it in any order
(`Json.Quoted`). Lists and objects hold values to any depth (`Json.Written`).

A string is read as what it spells (`Json.Quotes.readText`), and a value of any shape is
skipped up to its end, whatever brackets are open around it (`Json.Written.skips`).
-/

namespace TypedMemory

namespace Json

/-! ## Strings -/

/-- A hexadecimal digit in either case, and its value. -/
inductive HexDigit : Char → Nat → Prop
  | lower (value : Nat) (small : value < 16) : HexDigit (Nat.digitChar value) value
  | upper (value : Nat) (small : value < 16) : HexDigit (Nat.digitChar value).toUpper value

/-- Four hexadecimal digits, and the code unit that they spell. -/
inductive HexQuad : List Char → Nat → Prop
  | digits {a b c d : Char} {p q r s : Nat} (first : HexDigit a p) (second : HexDigit b q)
      (third : HexDigit c r) (fourth : HexDigit d s) :
      HexQuad [a, b, c, d] (p * 0x1000 + q * 0x100 + r * 0x10 + s)

/-- The letter of a short escape, and the character that it stands for. -/
inductive ShortEscape : Char → Char → Prop
  | quote : ShortEscape '"' '"'
  | backslash : ShortEscape '\\' '\\'
  | slash : ShortEscape '/' '/'
  | backspace : ShortEscape 'b' (Char.ofNat 8)
  | formFeed : ShortEscape 'f' (Char.ofNat 12)
  | newline : ShortEscape 'n' '\n'
  | carriageReturn : ShortEscape 'r' '\r'
  | tab : ShortEscape 't' '\t'

/-- A character that may stand in a string as itself. -/
def Plain (char : Char) : Prop :=
  char ≠ '"' ∧ char ≠ '\\' ∧ 0x20 ≤ char.toNat

/-- A string from behind its opening quote to its closing quote, and the text that it
spells. A code unit from the range of surrogates spells nothing alone. -/
inductive Quotes : List Char → List Char → Prop
  | close : Quotes ['"'] []
  | plain {char : Char} {chars text : List Char} (plain : Plain char) (more : Quotes chars text) :
      Quotes (char :: chars) (char :: text)
  | short {letter char : Char} {chars text : List Char} (escape : ShortEscape letter char)
      (more : Quotes chars text) : Quotes ('\\' :: letter :: chars) (char :: text)
  | unit {quad chars text : List Char} {unit : Nat} (digits : HexQuad quad unit)
      (single : unit < 0xD800 ∨ 0xDFFF < unit) (more : Quotes chars text) :
      Quotes ('\\' :: 'u' :: quad ++ chars) (Char.ofNat unit :: text)
  | pair {quad quad' chars text : List Char} {unit unit' : Nat} (leading : HexQuad quad unit)
      (trailing : HexQuad quad' unit') (high : 0xD800 ≤ unit ∧ unit ≤ 0xDBFF)
      (low : 0xDC00 ≤ unit' ∧ unit' ≤ 0xDFFF) (more : Quotes chars text) :
      Quotes ('\\' :: 'u' :: quad ++ '\\' :: 'u' :: quad' ++ chars)
        (Char.ofNat (0x10000 + (unit - 0xD800) * 0x400 + (unit' - 0xDC00)) :: text)

/-- A string from behind its opening quote to its closing quote, whether or not it spells a
text. -/
inductive Quoted : List Char → Prop
  | close : Quoted ['"']
  | plain {char : Char} {chars : List Char} (plain : Plain char) (more : Quoted chars) :
      Quoted (char :: chars)
  | short {letter char : Char} {chars : List Char} (escape : ShortEscape letter char)
      (more : Quoted chars) : Quoted ('\\' :: letter :: chars)
  | unit {quad chars : List Char} {unit : Nat} (digits : HexQuad quad unit)
      (more : Quoted chars) : Quoted ('\\' :: 'u' :: quad ++ chars)

instance : DecidablePred Plain := fun char =>
  inferInstanceAs (Decidable (char ≠ '"' ∧ char ≠ '\\' ∧ 0x20 ≤ char.toNat))

/-- A hexadecimal digit is read as its value, in either case. -/
theorem HexDigit.hexDigit? {char : Char} {value : Nat} (digit : HexDigit char value) :
    Text.hexDigit? char = some value := by
  cases digit with
  | lower _ small => exact hexDigit?_digitChar small
  | upper _ small => interval_cases value <;> decide

/-- Four hexadecimal digits are read as a unit. -/
theorem HexQuad.readHexQuad {quad : List Char} {unit : Nat} (digits : HexQuad quad unit)
    (rest : List Char) : readHexQuad (quad ++ rest) = .ok (unit, rest) := by
  cases digits with
  | @digits a b c d p q r s first second third fourth =>
      have value : ((p * 16 + q) * 16 + r) * 16 + s = p * 0x1000 + q * 0x100 + r * 0x10 + s := by
        omega
      simp [Json.readHexQuad, hexQuad?, first.hexDigit?, second.hexDigit?, third.hexDigit?,
        fourth.hexDigit?, value]

/-- The letters of short escapes are those that the reader knows. -/
theorem shortEscape?_eq_some_iff {letter char : Char} :
    shortEscape? letter = some char ↔ ShortEscape letter char := by
  constructor
  · intro short
    unfold shortEscape? at short
    split at short <;> cases short <;> constructor
  · intro escape
    cases escape <;> rfl

/-- No short escape is spelled like the escape of a unit. -/
theorem ShortEscape.ne_unit {letter char : Char} (escape : ShortEscape letter char) :
    letter ≠ 'u' := by
  cases escape <;> decide

/-- A control character is written by its number. -/
theorem hexQuad_hexPadded {value : Nat} (small : value < 0x20) :
    HexQuad (Text.hexPadded 4 value).toList value := by
  have zero : HexDigit '0' 0 := .lower 0 (by decide)
  have upper := HexDigit.lower (value / 16) (by omega)
  have lower := HexDigit.lower (value % 16) (by omega)
  have sum : 0 * 0x1000 + 0 * 0x100 + value / 16 * 0x10 + value % 16 = value := by omega
  have quad := HexQuad.digits zero zero upper lower
  rw [sum] at quad
  rw [toList_hexPadded small]
  exact quad

/-- A string spells what it is written for. -/
theorem quotes_writeChar (text : List Char) :
    Quotes (text.flatMap writeChar ++ ['"']) text := by
  induction text with
  | nil => exact .close
  | cons char text ih =>
      rw [List.flatMap_cons, List.append_assoc]
      obtain ⟨letter, short, written⟩ | ⟨control, written⟩ |
        ⟨notQuote, notBackslash, notControl, written⟩ := writeChar_cases char
      · rw [written]
        exact .short (shortEscape?_eq_some_iff.mp short) ih
      · have small : char.toNat < 0x20 := of_decide_eq_true control
        have spelled := Quotes.unit (hexQuad_hexPadded small) (.inl (by omega)) ih
        rw [Char.ofNat_toNat] at spelled
        rw [written]
        exact spelled
      · rw [written]
        exact .plain ⟨notQuote, notBackslash, Nat.not_lt.mp (of_decide_eq_false notControl)⟩ ih

theorem Plain.isControl {char : Char} (plain : Plain char) : isControl char = false :=
  decide_eq_false (Nat.not_lt.mpr plain.2.2)

/-- The escape of a unit that is no surrogate is read as its character. -/
theorem readEscape_unit {quad : List Char} {unit : Nat} (digits : HexQuad quad unit)
    (single : unit < 0xD800 ∨ 0xDFFF < unit) (rest : List Char) :
    readEscape ('u' :: quad ++ rest) = .ok (Char.ofNat unit, rest) := by
  have apart : isTrailing unit = false ∧ isLeading unit = false := by
    simp only [isTrailing, isLeading, Bool.and_eq_false_iff, decide_eq_false_iff_not]
    omega
  simp [readEscape, readCodeUnits, digits.readHexQuad, apart, bind, Except.bind, pure,
    Except.pure]

/-- The escapes of two surrogates are read as one character. -/
theorem readEscape_pair {quad quad' : List Char} {unit unit' : Nat} (leading : HexQuad quad unit)
    (trailing : HexQuad quad' unit') (high : 0xD800 ≤ unit ∧ unit ≤ 0xDBFF)
    (low : 0xDC00 ≤ unit' ∧ unit' ≤ 0xDFFF) (rest : List Char) :
    readEscape ('u' :: quad ++ '\\' :: 'u' :: quad' ++ rest) =
      .ok (Char.ofNat (0x10000 + (unit - 0xD800) * 0x400 + (unit' - 0xDC00)), rest) := by
  have first : isTrailing unit = false ∧ isLeading unit = true := by
    simp only [isTrailing, isLeading, Bool.and_eq_false_iff, decide_eq_false_iff_not,
      Bool.and_eq_true, decide_eq_true_eq]
    omega
  have second : isTrailing unit' = true := by
    simp only [isTrailing, Bool.and_eq_true, decide_eq_true_eq]
    omega
  have paired : pairedChar unit unit' =
      Char.ofNat (0x10000 + (unit - 0xD800) * 0x400 + (unit' - 0xDC00)) := by
    have sum : (unit - 0xD800) * 0x400 + (unit' - 0xDC00) + 0x10000 =
        0x10000 + (unit - 0xD800) * 0x400 + (unit' - 0xDC00) := by omega
    rw [pairedChar, sum]
  simp [readEscape, readCodeUnits, leading.readHexQuad, trailing.readHexQuad, first, second,
    takePairMark, paired, bind, Except.bind, pure, Except.pure]

/-- Within a string, the escape of a unit that is no surrogate is read as its character. -/
theorem readText_unit {quad : List Char} {unit : Nat} (digits : HexQuad quad unit)
    (single : unit < 0xD800 ∨ 0xDFFF < unit) (chars rest : List Char) :
    readText ('\\' :: 'u' :: quad ++ chars ++ rest) =
      (readText (chars ++ rest)).map fun (text, remaining) =>
        (Char.ofNat unit :: text, remaining) := by
  have read := readEscape_unit digits single (chars ++ rest)
  simp only [List.cons_append, List.append_assoc] at read ⊢
  exact readText_escape read

/-- Within a string, the escapes of two surrogates are read as one character. -/
theorem readText_pair {quad quad' : List Char} {unit unit' : Nat} (leading : HexQuad quad unit)
    (trailing : HexQuad quad' unit') (high : 0xD800 ≤ unit ∧ unit ≤ 0xDBFF)
    (low : 0xDC00 ≤ unit' ∧ unit' ≤ 0xDFFF) (chars rest : List Char) :
    readText ('\\' :: 'u' :: quad ++ '\\' :: 'u' :: quad' ++ chars ++ rest) =
      (readText (chars ++ rest)).map fun (text, remaining) =>
        (Char.ofNat (0x10000 + (unit - 0xD800) * 0x400 + (unit' - 0xDC00)) :: text,
          remaining) := by
  have read := readEscape_pair leading trailing high low (chars ++ rest)
  simp only [List.cons_append, List.append_assoc] at read ⊢
  exact readText_escape read

/-- A string is read as what it spells. -/
theorem Quotes.readText {chars text : List Char} (quotes : Quotes chars text)
    (rest : List Char) : readText (chars ++ rest) = .ok (text, rest) := by
  induction quotes with
  | close => exact readText_quote rest
  | plain plain _ ih =>
      rw [List.cons_append, readText_plain plain.1 plain.2.1 plain.isControl, ih]
      rfl
  | short escape _ ih =>
      have read := readEscape_short (shortEscape?_eq_some_iff.mpr escape)
      simp only [List.cons_append]
      rw [readText_escape (read _), ih]
      rfl
  | unit digits single _ ih =>
      rw [readText_unit digits single, ih]
      rfl
  | pair leading trailing high low _ ih =>
      rw [readText_pair leading trailing high low, ih]
      rfl

/-- A string that is passed over is skipped up to its closing quote. -/
theorem Quoted.skipText {chars : List Char} (quoted : Quoted chars) (rest : List Char) :
    skipText (chars ++ rest) = .ok rest := by
  induction quoted with
  | close => exact skipText_quote rest
  | plain plain _ ih =>
      rw [List.cons_append, skipText_plain plain.1 plain.2.1 plain.isControl, ih]
  | @short letter char chars escape _ ih =>
      have skipped : skipEscape (letter :: (chars ++ rest)) = .ok (chars ++ rest) := by
        simp [skipEscape, escape.ne_unit, shortEscape?_eq_some_iff.mpr escape]
      simp only [List.cons_append]
      rw [skipText_escape skipped, ih]
  | @unit quad chars unit digits _ ih =>
      have skipped : skipEscape ('u' :: (quad ++ (chars ++ rest))) = .ok (chars ++ rest) := by
        simp [skipEscape, digits.readHexQuad, Except.map]
      simp only [List.cons_append, List.append_assoc]
      rw [skipText_escape skipped, ih]

/-! ## Strings that spell nothing -/

/-- A string that spells a text. -/
def Legible (chars : List Char) : Prop :=
  ∃ text, Quotes chars text

/-- A string spells one text at most. -/
theorem Quotes.unique {chars text text' : List Char} (quotes : Quotes chars text)
    (quotes' : Quotes chars text') : text' = text := by
  have read := quotes'.readText []
  rw [quotes.readText []] at read
  cases read
  rfl

/-- What spells one name spells no other. -/
theorem Quotes.spells_no_other {chars : List Char} {name other : String}
    (quotes : Quotes chars name.toList) (differs : other ≠ name) :
    ¬ Quotes chars other.toList := by
  intro quotes'
  exact differs (String.toList_inj.mp (quotes.unique quotes'))

/-- What spells a text is a string. -/
theorem Quotes.quoted {chars text : List Char} (quotes : Quotes chars text) : Quoted chars := by
  induction quotes with
  | close => exact .close
  | plain plain _ ih => exact .plain plain ih
  | short escape _ ih => exact .short escape ih
  | unit digits _ _ ih => exact .unit digits ih
  | @pair quad quad' chars _ _ _ leading trailing _ _ _ ih =>
      have pair := Quoted.unit leading (.unit trailing ih)
      rwa [List.append_assoc]

theorem Legible.quoted {chars : List Char} : Legible chars → Quoted chars
  | ⟨_, quotes⟩ => quotes.quoted

/-- The second half of a surrogate pair is not read in front of anything. -/
theorem readEscape_trailing {quad : List Char} {unit : Nat} (digits : HexQuad quad unit)
    (low : isTrailing unit = true) (rest : List Char) :
    ∃ fault, readEscape ('u' :: quad ++ rest) = .error fault := by
  simp [readEscape, readCodeUnits, digits.readHexQuad, low, bind, Except.bind]

/-- The first half of a surrogate pair is not read in front of anything but the second. -/
theorem readEscape_leading {quad chars : List Char} {unit : Nat} (digits : HexQuad quad unit)
    (high : isLeading unit = true) (quoted : Quoted chars) :
    (∃ quad' chars' unit', chars = '\\' :: 'u' :: quad' ++ chars' ∧ HexQuad quad' unit' ∧
      isTrailing unit' = true ∧ Quoted chars') ∨
    ∀ rest, ∃ fault, readEscape ('u' :: quad ++ (chars ++ rest)) = .error fault := by
  have first : isTrailing unit = false := by
    simp only [isTrailing, isLeading, Bool.and_eq_true, Bool.and_eq_false_iff, decide_eq_true_eq,
      decide_eq_false_iff_not] at high ⊢
    omega
  cases quoted with
  | close =>
      simp [readEscape, readCodeUnits, digits.readHexQuad, first, high, takePairMark, bind,
        Except.bind]
  | plain plain _ =>
      right
      simp [readEscape, readCodeUnits, digits.readHexQuad, first, high, takePairMark, plain.2.1,
        bind, Except.bind]
  | short escape _ =>
      right
      simp [readEscape, readCodeUnits, digits.readHexQuad, first, high, takePairMark,
        escape.ne_unit, bind, Except.bind]
  | @unit quad' chars' unit' digits' more =>
      cases second : isTrailing unit' with
      | true => exact .inl ⟨quad', chars', unit', rfl, digits', second, more⟩
      | false =>
          right
          simp [readEscape, readCodeUnits, digits.readHexQuad, first, high, takePairMark,
            digits'.readHexQuad, second, bind, Except.bind]

/-- What a string is refused for behind a character, it is refused for in front of it. -/
theorem refused_behind {chars more : List Char} {char : Char}
    (step : ∀ rest, readText (chars ++ rest) =
      (readText (more ++ rest)).map fun (text, remaining) => (char :: text, remaining))
    (refused : ∀ rest, ∃ fault, readText (more ++ rest) = .error fault) (rest : List Char) :
    ∃ fault, readText (chars ++ rest) = .error fault := by
  obtain ⟨fault, refused⟩ := refused rest
  exact ⟨fault, by rw [step, refused]; rfl⟩

/-- A string either spells a text or is not read. -/
theorem Quoted.legible_or_refused {chars : List Char} (quoted : Quoted chars) :
    Legible chars ∨ ∀ rest, ∃ fault, readText (chars ++ rest) = .error fault := by
  -- A surrogate pair takes two escapes at once, so the induction is on the length.
  induction size : chars.length using Nat.strong_induction_on generalizing chars with
  | _ size ih =>
  subst size
  cases quoted with
  | close => exact .inl ⟨[], .close⟩
  | @plain char chars plain more =>
      obtain ⟨text, quotes⟩ | refused := ih _ (Nat.lt_succ_self _) more rfl
      · exact .inl ⟨char :: text, .plain plain quotes⟩
      · exact .inr (refused_behind
          (fun _ => readText_plain plain.1 plain.2.1 plain.isControl) refused)
  | @short letter char chars escape more =>
      obtain ⟨text, quotes⟩ | refused := ih _ (by grind) more rfl
      · exact .inl ⟨char :: text, .short escape quotes⟩
      · have read := readEscape_short (shortEscape?_eq_some_iff.mpr escape)
        exact .inr (refused_behind (fun _ => readText_escape (read _)) refused)
  | @unit quad chars unit digits more =>
      cases low : isTrailing unit with
      | true =>
          right
          intro rest
          obtain ⟨fault, broken⟩ := readEscape_trailing digits low (chars ++ rest)
          simp only [List.cons_append, List.append_assoc] at broken ⊢
          exact ⟨fault, readText_brokenEscape broken⟩
      | false =>
      cases high : isLeading unit with
      | false =>
          have single : unit < 0xD800 ∨ 0xDFFF < unit := by
            simp only [isTrailing, isLeading, Bool.and_eq_false_iff,
              decide_eq_false_iff_not] at low high
            omega
          obtain ⟨text, quotes⟩ | refused := ih _ (by grind) more rfl
          · exact .inl ⟨_, .unit digits single quotes⟩
          · exact .inr (refused_behind (readText_unit digits single chars) refused)
      | true =>
      obtain ⟨quad', chars', unit', rfl, digits', trailing, more'⟩ | broken :=
        readEscape_leading digits high more
      · simp only [isTrailing, isLeading, Bool.and_eq_true, decide_eq_true_eq] at high trailing
        obtain ⟨text, quotes⟩ | refused := ih _ (by grind) more' rfl
        · have spelled := Quotes.pair digits digits' high trailing quotes
          rw [List.append_assoc] at spelled
          exact .inl ⟨_, spelled⟩
        · have step := readText_pair digits digits' high trailing chars'
          rw [List.append_assoc] at step
          exact .inr (refused_behind step refused)
      · right
        intro rest
        obtain ⟨fault, broken⟩ := broken rest
        simp only [List.cons_append, List.append_assoc] at broken ⊢
        exact ⟨fault, readText_brokenEscape broken⟩

/-! ## Numerals -/

/-- One digit or more. -/
def Digits (chars : List Char) : Prop :=
  chars ≠ [] ∧ chars.all Char.isDigit = true

/-- The digits before the point: a zero alone, or digits that do not start with one. -/
inductive Whole : List Char → Prop
  | zero : Whole ['0']
  | digits {char : Char} {chars : List Char} (run : Digits (char :: chars))
      (positive : char ≠ '0') : Whole (char :: chars)

/-- A point and the digits behind it, or nothing. -/
inductive Fraction : List Char → Prop
  | absent : Fraction []
  | present {digits : List Char} (run : Digits digits) : Fraction ('.' :: digits)

/-- An exponent, or nothing. -/
inductive Exponent : List Char → Prop
  | absent : Exponent []
  | present {mark : Char} {sign digits : List Char} (marked : mark = 'e' ∨ mark = 'E')
      (signed : sign = [] ∨ sign = ['+'] ∨ sign = ['-']) (run : Digits digits) :
      Exponent (mark :: sign ++ digits)

/-- A numeral, whatever its value. -/
inductive IsNumeral : List Char → Prop
  | parts {sign whole fraction exponent : List Char} (signed : sign = [] ∨ sign = ['-'])
      (before : Whole whole) (behind : Fraction fraction) (scale : Exponent exponent) :
      IsNumeral (sign ++ whole ++ fraction ++ exponent)

/-- What comes next does not carry a numeral on. -/
def Ends (rest : List Char) : Prop :=
  ∀ char ∈ rest.head?, char.isDigit = false ∧ char ≠ '.' ∧ char ≠ 'e' ∧ char ≠ 'E'

/-- No blank belongs to a number. -/
theorem isDigit_of_isSpace {char : Char} (space : isSpace char = true) :
    char.isDigit = false ∧ char ≠ '.' ∧ char ≠ 'e' ∧ char ≠ 'E' := by
  simp only [isSpace, Bool.or_eq_true, decide_eq_true_eq] at space
  obtain ((rfl | rfl) | rfl) | rfl := space <;> decide

/-- Blanks carry no numeral on. -/
theorem Ends.blanks {blanks rest : List Char} (ends : Ends rest) (blank : Blank blanks) :
    Ends (blanks ++ rest) := by
  cases blanks with
  | nil => exact ends
  | cons char blanks =>
      rintro _ ⟨rfl⟩
      exact isDigit_of_isSpace (blank char List.mem_cons_self)

/-- A run of digits is scanned up to what is no digit. -/
theorem Digits.scanned {digits rest : List Char} (run : Digits digits)
    (ended : ∀ char ∈ rest.head?, char.isDigit = false) :
    (digits ++ rest).isEmpty = false ∧ (digits ++ rest).head?.any Char.isDigit = true ∧
      (digits ++ rest).dropWhile Char.isDigit = rest := by
  obtain ⟨present, all⟩ := run
  have all := List.all_eq_true.mp all
  have stopped : rest.dropWhile Char.isDigit = rest := by
    cases rest with
    | nil => rfl
    | cons char rest =>
        have stop := ended char rfl
        exact List.dropWhile_cons_of_neg (by simp [stop])
  refine ⟨by simp [present], ?_, ?_⟩
  · obtain ⟨char, chars, rfl⟩ := List.exists_cons_of_ne_nil present
    simpa using all char List.mem_cons_self
  · rw [List.dropWhile_append_of_pos all, stopped]

/-- The digits before the point are scanned to where they end. -/
theorem Whole.scanWhole {whole rest : List Char} (digits : Whole whole) (atEnd : Cause)
    (ended : ∀ char ∈ rest.head?, char.isDigit = false) :
    ∃ part, Numeral.scanWhole atEnd (whole ++ rest) = .ok (part, rest) := by
  cases digits with
  | zero =>
      have stopped : rest.head?.any Char.isDigit = false := by
        cases rest with
        | nil => rfl
        | cons char rest => exact ended char rfl
      exact ⟨['0'], by simp [Numeral.scanWhole, stopped]⟩
  | @digits char chars run positive =>
      have digit := (Bool.and_eq_true_iff.mp run.2).1
      obtain ⟨-, -, dropped⟩ := run.scanned ended
      rw [List.cons_append, List.dropWhile_cons_of_pos digit] at dropped
      exact ⟨char :: (chars ++ rest).takeWhile Char.isDigit,
        by simp [Numeral.scanWhole, positive, digit, dropped]⟩

/-- The point and its digits are scanned to where they end. -/
theorem Fraction.scanFraction {fraction rest : List Char} (digits : Fraction fraction)
    (atEnd : Cause) (ended : ∀ char ∈ rest.head?, char.isDigit = false ∧ char ≠ '.') :
    ∃ part, Numeral.scanFraction atEnd (fraction ++ rest) = .ok (part, rest) := by
  cases digits with
  | absent =>
      refine ⟨none, ?_⟩
      rw [List.nil_append, Numeral.scanFraction]
      rintro behind rfl
      exact (ended '.' rfl).2 rfl
  | present run =>
      obtain ⟨present, digit, dropped⟩ := run.scanned fun char first => (ended char first).1
      simp only [List.cons_append, Numeral.scanFraction, present, digit, dropped]
      exact ⟨_, rfl⟩

/-- The exponent is scanned to where the number ends, with a sign or without. -/
theorem Exponent.scanExponent {exponent rest : List Char} (digits : Exponent exponent)
    (atEnd : Cause) (ended : Ends rest) :
    ∃ part, Numeral.scanExponent atEnd (exponent ++ rest) = .ok (part, rest) := by
  cases digits with
  | absent =>
      refine ⟨none, ?_⟩
      cases rest with
      | nil => rfl
      | cons char rest =>
          obtain ⟨-, -, lower, upper⟩ := ended char rfl
          simp [Numeral.scanExponent, Numeral.isExponentMark, lower, upper]
  | @present mark sign digits marked signed run =>
      have isMark : Numeral.isExponentMark mark = true := by
        obtain rfl | rfl := marked <;> rfl
      obtain ⟨present, digit, dropped⟩ := run.scanned fun char first => (ended char first).1
      have unsigned : (Numeral.scanSign (sign ++ (digits ++ rest))).2 = digits ++ rest := by
        obtain rfl | rfl | rfl := signed
        · -- Digits are not taken for a sign.
          rw [List.nil_append, Numeral.scanSign]
          · rintro behind same
            rw [same] at digit
            cases digit
          · rintro behind same
            rw [same] at digit
            cases digit
        · rfl
        · rfl
      simp only [List.cons_append, List.append_assoc, Numeral.scanExponent, isMark, unsigned,
        present, digit, dropped]
      exact ⟨_, rfl⟩

/-- A numeral is scanned to its end behind its sign. -/
theorem Numeral.scan_parts {whole fraction exponent rest : List Char} (before : Whole whole)
    (behind : Fraction fraction) (scale : Exponent exponent) (ended : Ends rest) (atEnd : Cause)
    (negative : Bool) :
    (scan atEnd negative (whole ++ (fraction ++ (exponent ++ rest)))).map Prod.snd = .ok rest := by
  -- Neither an exponent nor a fraction starts with what would carry on the part before it.
  have afterFraction : ∀ char ∈ (exponent ++ rest).head?, char.isDigit = false ∧ char ≠ '.' := by
    cases scale with
    | absent => exact fun char first => ⟨(ended char first).1, (ended char first).2.1⟩
    | present marked _ _ =>
        rintro _ ⟨rfl⟩
        obtain rfl | rfl := marked <;> decide
  have afterWhole : ∀ char ∈ (fraction ++ (exponent ++ rest)).head?, char.isDigit = false := by
    cases behind with
    | absent => exact fun char first => (afterFraction char first).1
    | present _ =>
        rintro _ ⟨rfl⟩
        rfl
  obtain ⟨wholePart, scannedWhole⟩ := before.scanWhole atEnd afterWhole
  obtain ⟨fractionPart, scannedFraction⟩ := behind.scanFraction atEnd afterFraction
  obtain ⟨exponentPart, scannedExponent⟩ := scale.scanExponent atEnd ended
  simp [scan, scannedWhole, scannedFraction, scannedExponent, bind, Except.bind, pure,
    Except.pure, Except.map]

/-- A number has a digit before the point. -/
theorem Whole.head {whole : List Char} (digits : Whole whole) :
    ∃ char more, whole = char :: more ∧ char.isDigit = true := by
  cases digits with
  | zero => exact ⟨'0', [], rfl, rfl⟩
  | @digits char chars run _ => exact ⟨char, chars, rfl, (Bool.and_eq_true_iff.mp run.2).1⟩

theorem ne_of_isDigit {char other : Char} (digit : char.isDigit = true)
    (notDigit : other.isDigit = false) : char ≠ other := by
  rintro rfl
  simp [digit] at notDigit

/-- What starts with a digit is skipped as a numeral. -/
theorem skipScalar_digit {char : Char} (digit : char.isDigit = true) (rest : List Char) :
    skipScalar (char :: rest) =
      (Numeral.scan .invalidNumber false (char :: rest)).map Prod.snd := by
  rw [skipScalar]
  · simp [digit]
  all_goals
    rintro behind ⟨⟩
    exact ne_of_isDigit digit rfl rfl

/-- A number is skipped to where it ends. -/
theorem IsNumeral.skipScalar {chars rest : List Char} (numeral : IsNumeral chars)
    (ended : Ends rest) : skipScalar (chars ++ rest) = .ok rest := by
  cases numeral with
  | @parts sign whole fraction exponent signed before behind scale =>
      have scanned := Numeral.scan_parts before behind scale ended .invalidNumber
      simp only [List.append_assoc]
      obtain rfl | rfl := signed
      · obtain ⟨char, more, rfl, digit⟩ := before.head
        exact (skipScalar_digit digit _).trans (scanned false)
      · exact scanned true

/-- A numeral starts with a character that is no blank and no bracket. -/
theorem IsNumeral.head {chars : List Char} (numeral : IsNumeral chars) :
    ∃ char more, chars = char :: more ∧ isSpace char = false ∧ char ≠ ']' ∧ char ≠ '[' ∧
      char ≠ '\x7b' := by
  cases numeral with
  | @parts sign whole fraction exponent signed before _ _ =>
      obtain rfl | rfl := signed
      · obtain ⟨char, more, rfl, digit⟩ := before.head
        have other {symbol : Char} : symbol.isDigit = false → char ≠ symbol := ne_of_isDigit digit
        have solid : isSpace char = false := by
          simp [isSpace, other]
        exact ⟨char, more ++ fraction ++ exponent, rfl, solid, other rfl, other rfl, other rfl⟩
      · exact ⟨'-', whole ++ fraction ++ exponent, rfl, by decide⟩

/-! ## Values -/

/-- What stands before an element of a bracket: blanks, and among them a comma unless the
element is the first. -/
inductive Separator : Bool → List Char → Prop
  | first {blanks : List Char} (blank : Blank blanks) : Separator true blanks
  | later {before after : List Char} (blankBefore : Blank before) (blankAfter : Blank after) :
      Separator false (before ++ ',' :: after)

/-- What stands between a key and its value: a colon among blanks. -/
inductive Colon : List Char → Prop
  | colon {before after : List Char} (blankBefore : Blank before) (blankAfter : Blank after) :
      Colon (before ++ ':' :: after)

/-- A passage of a document: a value, or what is still to come inside a bracket, where all
but the first element come behind a comma. -/
inductive Passage where
  | value
  | inside (bracket : Bracket) (first : Bool)

/-- The characters of a passage, to any depth. -/
inductive Written : Passage → List Char → Prop
  | null : Written .value ['n', 'u', 'l', 'l']
  | yes : Written .value ['t', 'r', 'u', 'e']
  | no : Written .value ['f', 'a', 'l', 's', 'e']
  | numeral {chars : List Char} (numeral : IsNumeral chars) : Written .value chars
  | text {chars : List Char} (quoted : Quoted chars) : Written .value ('"' :: chars)
  | list {chars : List Char} (elements : Written (.inside .list true) chars) :
      Written .value ('[' :: chars)
  | object {chars : List Char} (members : Written (.inside .object true) chars) :
      Written .value ('\x7b' :: chars)
  | close {bracket : Bracket} {first : Bool} {blanks : List Char} (blank : Blank blanks) :
      Written (.inside bracket first) (blanks ++ [bracket.closing])
  | element {first : Bool} {before chars more : List Char} (separator : Separator first before)
      (value : Written .value chars) (elements : Written (.inside .list false) more) :
      Written (.inside .list first) (before ++ chars ++ more)
  | member {first : Bool} {before key colon chars more : List Char}
      (separator : Separator first before) (quoted : Quoted key) (between : Colon colon)
      (value : Written .value chars) (members : Written (.inside .object false) more) :
      Written (.inside .object first) (before ++ '"' :: key ++ colon ++ chars ++ more)

/-- A number may stand before a comma. -/
theorem ends_comma (rest : List Char) : Ends (',' :: rest) := by
  rintro _ ⟨rfl⟩
  decide

/-- A number may stand before a closing bracket. -/
theorem ends_closing (bracket : Bracket) (rest : List Char) : Ends (bracket.closing :: rest) := by
  rintro _ ⟨rfl⟩
  cases bracket <;> decide

/-- A number may stand before what separates it from the next value. -/
theorem Separator.ends {before : List Char} (separator : Separator false before)
    (rest : List Char) : Ends (before ++ rest) := by
  cases separator with
  | later blankBefore _ =>
      rw [List.append_assoc]
      exact (ends_comma _).blanks blankBefore

/-- What comes behind an element carries no numeral on. -/
theorem Written.ends {bracket : Bracket} {chars : List Char}
    (written : Written (.inside bracket false) chars) (rest : List Char) :
    Ends (chars ++ rest) := by
  cases written with
  | close blank =>
      rw [List.append_assoc]
      exact (ends_closing bracket rest).blanks blank
  | element separator _ _ =>
      simp only [List.append_assoc]
      exact separator.ends _
  | member separator _ _ _ _ =>
      simp only [List.append_assoc]
      exact separator.ends _

/-- A value starts with a character that is no blank and ends no list. -/
theorem Written.head {chars : List Char} (written : Written .value chars) :
    ∃ char more, chars = char :: more ∧ isSpace char = false ∧ char ≠ ']' := by
  cases written with
  | null => exact ⟨_, _, rfl, rfl, by decide⟩
  | yes => exact ⟨_, _, rfl, rfl, by decide⟩
  | no => exact ⟨_, _, rfl, rfl, by decide⟩
  | numeral numeral =>
      obtain ⟨char, more, rfl, solid, notClosing, -⟩ := numeral.head
      exact ⟨char, more, rfl, solid, notClosing⟩
  | text _ => exact ⟨_, _, rfl, rfl, by decide⟩
  | list _ => exact ⟨_, _, rfl, rfl, by decide⟩
  | object _ => exact ⟨_, _, rfl, rfl, by decide⟩

/-- The reader finds the colon after a key, whatever blanks are around it. -/
theorem Colon.skipColon {colon : List Char} (between : Colon colon) (rest : List Char) :
    ∃ blanks, Blank blanks ∧ skipColon (colon ++ rest) = .ok (blanks ++ rest) := by
  cases between with
  | @colon before after blankBefore blankAfter =>
      refine ⟨after, blankAfter, ?_⟩
      have found : skipSpace (before ++ ':' :: (after ++ rest)) = ':' :: (after ++ rest) :=
        skipSpace_append blankBefore rfl
      simp [Json.skipColon, found]

/-- The phase of a skip inside a bracket. -/
def SkipPhase.inside (first : Bool) : SkipPhase :=
  if first then .opened else .passed

/-- Before an element the separator is passed, up to blanks. -/
theorem Separator.skipFrom {first : Bool} {before : List Char} (separator : Separator first before)
    (bracket : Bracket) {char : Char} (solid : isSpace char = false)
    (notClosing : char ≠ bracket.closing) (outer : List Bracket) (rest : List Char) :
    ∃ blanks, Blank blanks ∧
      skipFrom (.inside first) (bracket :: outer) (before ++ char :: rest) =
        skipFrom bracket.element (bracket :: outer) (blanks ++ char :: rest) := by
  cases separator with
  | first blank =>
      exact ⟨[], blank_nil, skipFrom_opened_element (skipSpace_append blank solid) notClosing⟩
  | @later before after blankBefore blankAfter =>
      refine ⟨after, blankAfter, ?_⟩
      rw [List.append_assoc]
      exact skipFrom_passed_comma (skipSpace_append blankBefore rfl)

/-- The end of a bracket is passed, before or behind its elements. -/
theorem skipFrom_closing {bracket : Bracket} {blanks : List Char} (blank : Blank blanks)
    (first : Bool) (outer : List Bracket) (rest : List Char) :
    skipFrom (.inside first) (bracket :: outer) (blanks ++ bracket.closing :: rest) =
      skipFrom .passed outer rest := by
  have solid : isSpace bracket.closing = false := by cases bracket <;> rfl
  have found : skipSpace (blanks ++ bracket.closing :: rest) = bracket.closing :: rest :=
    skipSpace_append blank solid
  cases first with
  | true => exact skipFrom_opened_close found
  | false => exact skipFrom_passed_close found

/-- What it is to skip a passage, whatever brackets are open around it: a value is passed
behind any blanks, and what is inside a bracket is passed up to the end of the bracket. -/
def Passage.Skips : Passage → List Char → Prop
  | .value, chars => ∀ ⦃blanks rest : List Char⦄ (stack : List Bracket), Blank blanks →
      Ends rest → skipFrom .value stack (blanks ++ (chars ++ rest)) = skipFrom .passed stack rest
  | .inside bracket first, chars => ∀ (outer : List Bracket) (rest : List Char),
      skipFrom (.inside first) (bracket :: outer) (chars ++ rest) = skipFrom .passed outer rest

/-- **Every passage is skipped**, whatever its depth. -/
theorem Written.skips {passage : Passage} {chars : List Char} (written : Written passage chars) :
    passage.Skips chars := by
  induction written with
  | null =>
      intro blanks rest stack blank _
      exact skipFrom_scalar (skipSpace_append blank rfl) (by decide) (by decide) rfl
  | yes =>
      intro blanks rest stack blank _
      exact skipFrom_scalar (skipSpace_append blank rfl) (by decide) (by decide) rfl
  | no =>
      intro blanks rest stack blank _
      exact skipFrom_scalar (skipSpace_append blank rfl) (by decide) (by decide) rfl
  | numeral numeral =>
      intro blanks rest stack blank ended
      have skipped := numeral.skipScalar ended
      obtain ⟨char, more, rfl, solid, -, notList, notObject⟩ := numeral.head
      exact skipFrom_scalar (skipSpace_append blank solid) notList notObject skipped
  | text quoted =>
      intro blanks rest stack blank _
      exact skipFrom_scalar (skipSpace_append blank rfl) (by decide) (by decide)
        (quoted.skipText rest)
  | list _ ih =>
      intro blanks rest stack blank _
      exact (skipFrom_list (skipSpace_append blank rfl)).trans (ih stack rest)
  | object _ ih =>
      intro blanks rest stack blank _
      exact (skipFrom_object (skipSpace_append blank rfl)).trans (ih stack rest)
  | @close bracket first blanks blank =>
      intro outer rest
      rw [List.append_assoc]
      exact skipFrom_closing blank first outer rest
  | @element first before chars more separator value elements skipsValue skipsRest =>
      intro outer rest
      obtain ⟨char, chars', rfl, solid, notClosing⟩ := value.head
      obtain ⟨blanks, blank, reached⟩ :=
        separator.skipFrom .list solid notClosing outer (chars' ++ (more ++ rest))
      have passed := skipsValue (.list :: outer) blank (elements.ends rest)
      simp only [List.append_assoc, List.cons_append] at passed ⊢
      rw [reached]
      exact passed.trans (skipsRest outer rest)
  | @member first before key colon chars more separator quoted between value members skipsValue
      skipsRest =>
      intro outer rest
      have solid : isSpace '"' = false := rfl
      obtain ⟨blanks, blank, reached⟩ :=
        separator.skipFrom .object solid (by decide) outer
          (key ++ (colon ++ (chars ++ (more ++ rest))))
      obtain ⟨blanks', blank', colonPassed⟩ := between.skipColon (chars ++ (more ++ rest))
      have keyPassed : skipKey (blanks ++ '"' :: (key ++ (colon ++ (chars ++ (more ++ rest))))) =
          .ok (blanks' ++ (chars ++ (more ++ rest))) := by
        rw [skipKey, skipSpace_append blank rfl]
        simp [quoted.skipText, Except.bind, colonPassed]
      have passed := skipsValue (.object :: outer) blank' (members.ends rest)
      simp only [List.append_assoc, List.cons_append] at passed ⊢
      rw [reached]
      exact (skipFrom_key keyPassed).trans (passed.trans (skipsRest outer rest))

end Json

end TypedMemory
